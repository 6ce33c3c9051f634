import FragglePacket.NetworkTests.TurnTrust

/-! What the TURN exchange reports once its credentials were refused. -/

namespace FragglePacket.NetworkTests

open FragglePacket.Wire

/-- The error codes of an authentication failure: 401, 438 and 441. -/
def FailsAuthentication (number : UInt8) : Prop := number = 1 ∨ number = 38 ∨ number = 41

/-- The message is an error response to the transaction, of class 4 and this number. -/
def Refuses (message : Bytes) (txn : Vector UInt8 12) (number : UInt8) : Prop :=
  ∃ parsed, parseMessage message = .ok parsed ∧ parsed.transactionId = txn ∧
    parsed.msgType = allocateError ∧
    extractErrorCode parsed.attrs = (4, number)

/-- On this transport both requests go out, the first is challenged, and the second is
answered by `second`. -/
structure Challenged {σ : Type} (transport : Transport σ) (socket : σ) (creds : TurnCredentials)
    (txn1 txn2 : Vector UInt8 12) (second : Bytes) : Prop where
  answered : ∃ asked first challenged parsed realm nonce waiting rest,
    transport.send socket (buildAllocateRequest txn1) = some asked ∧
      transport.receive asked = some (first, challenged) ∧
        challengeOf first = some (parsed, realm, nonce) ∧
      transport.send challenged (authenticatedRequest creds realm nonce txn2) = some waiting ∧
      transport.receive waiting = some (second, rest)

theorem errorOutcome_failure {number : UInt8} (failure : FailsAuthentication number) :
    errorOutcome 4 number = .ok (if number = 1 then .unauthorized else .credentialsRejected) := by
  rcases failure with rfl | rfl | rfl <;> rfl

/-- The parser reads an authentication failure the same way before and after credentials
were presented. -/
theorem parseAllocateResponse_refusal {message : Bytes} {txn : Vector UInt8 12} {number : UInt8}
    (refuses : Refuses message txn number) (failure : FailsAuthentication number) :
    parseAllocateResponse message txn =
      .ok (if number = 1 then .unauthorized else .credentialsRejected) := by
  obtain ⟨parsed, parsing, carries, isError, code⟩ := refuses
  have noSuccess : allocateError ≠ allocateSuccess := by decide
  simp only [parseAllocateResponse, parsing, Except.mapError, bind, Except.bind, carries, isError,
    code, ne_eq, not_true_eq_false, if_false, noSuccess, if_true]
  exact errorOutcome_failure failure

section Exchange
variable {σ : Type} {transport : Transport σ} {socket : σ} {creds : TurnCredentials}
  {txn1 txn2 : Vector UInt8 12} {second : Bytes}

/-- A challenged exchange reports what the parser makes of the second answer. -/
theorem Challenged.outcome (challenged : Challenged transport socket creds txn1 txn2 second) :
    (turnAllocate transport socket (some creds) txn1 txn2).outcome =
      outcomeOf (parseAllocateResponse second txn2) := by
  obtain ⟨asked, first, ready, parsed, realm, nonce, waiting, rest, sent, delivered, taken, resent,
      answered⟩ :=
    challenged.answered
  rw [authenticatedRequest] at resent
  simp only [turnAllocate, sent, delivered,
    answerFirst_challenge ready creds txn1 txn2 _ first taken, authenticate, resent, answered]

theorem Challenged.refused_outcome (challenged : Challenged transport socket creds txn1 txn2 second)
    {number : UInt8} (refuses : Refuses second txn2 number) (failure : FailsAuthentication number) :
    (turnAllocate transport socket (some creds) txn1 txn2).outcome =
      if number = 1 then .unauthorized else .credentialsRejected := by
  rw [challenged.outcome, parseAllocateResponse_refusal refuses failure]
  rfl

theorem Challenged.rejected_iff (challenged : Challenged transport socket creds txn1 txn2 second)
    {number : UInt8} (refuses : Refuses second txn2 number) (failure : FailsAuthentication number) :
    (turnAllocate transport socket (some creds) txn1 txn2).outcome = .credentialsRejected ↔
      number ≠ 1 := by
  rw [challenged.refused_outcome refuses failure]
  by_cases unauthorized : number = 1
  · rw [if_pos unauthorized]
    exact iff_of_false (by simp) (not_not_intro unauthorized)
  · rw [if_neg unauthorized]
    exact iff_of_true rfl unauthorized

end Exchange

/-- Refused credentials are reported as rejected exactly where the refusal is not a 401,
over datagrams and over a stream. -/
theorem credentials_rejected_iff (creds : TurnCredentials) (txn1 txn2 : Vector UInt8 12)
    (second : Bytes) (number : UInt8) (refuses : Refuses second txn2 number)
    (failure : FailsAuthentication number) :
    (∀ socket : UdpSocket, Challenged UdpSocket.transport socket creds txn1 txn2 second →
      ((turnAllocateUdp socket (some creds) txn1 txn2).outcome = .credentialsRejected ↔
        number ≠ 1)) ∧
    (∀ stream : TcpStream, Challenged TcpStream.transport stream creds txn1 txn2 second →
      ((turnAllocateTcp stream (some creds) txn1 txn2).outcome = .credentialsRejected ↔
        number ≠ 1)) :=
  ⟨fun _ challenged => challenged.rejected_iff refuses failure,
    fun _ challenged => challenged.rejected_iff refuses failure⟩

/-- An error response with one error code and nothing else. -/
def refusal (txn : Vector UInt8 12) (number : UInt8) : Bytes :=
  buildMessage allocateError txn
    (AttrBuilder.new.pushAll [(attrErrorCode, [0, 0, 4, number])]).bytes

theorem refusal_size (number : UInt8) :
    (AttrBuilder.new.pushAll [(attrErrorCode, [0, 0, 4, number])]).bytes.length = 8 := by
  simp [AttrBuilder.pushAll, AttrBuilder.push, AttrBuilder.new, pad4]

theorem refusal_refuses (txn : Vector UInt8 12) (number : UInt8) :
    Refuses (refusal txn number) txn number := by
  have small : (AttrBuilder.new.pushAll [(attrErrorCode, [0, 0, 4, number])]).bytes.length <
      65536 := by
    rw [refusal_size]
    decide
  have code : extractErrorCode [(attrErrorCode, [0, 0, 4, number])] = (4, number) := by
    have masked : (4 : UInt8) &&& 0x07 = 4 := by decide
    simp [extractErrorCode, masked]
  exact ⟨_, parseMessage_build _ _ _ small, rfl, rfl, code⟩

/-- A server that challenges the first request and refuses the second. -/
def refusingServer (txn2 : Vector UInt8 12) (number : UInt8) : UdpSocket :=
  ⟨2, [forgedChallenge, refusal txn2 number]⟩

theorem refusal_challenged (creds : TurnCredentials) (txn1 txn2 : Vector UInt8 12)
    (number : UInt8) :
    Challenged UdpSocket.transport (refusingServer txn2 number) creds txn1 txn2
      (refusal txn2 number) where
  answered := by
    have challenge : forgedChallenge.take 1024 = forgedChallenge := by decide
    have answer : (refusal txn2 number).take 1024 = refusal txn2 number := by
      apply List.take_of_length_le
      rw [refusal, buildMessage_eq, message_length, refusal_size]
      decide
    refine ⟨⟨1, [forgedChallenge, refusal txn2 number]⟩, forgedChallenge,
      ⟨1, [refusal txn2 number]⟩, _, _, _, ⟨0, [refusal txn2 number]⟩, ⟨0, []⟩, rfl, ?_,
      challengeOf_forged, rfl, ?_⟩
    · simp only [UdpSocket.transport, challenge]
    · simp only [UdpSocket.transport, answer]

theorem credentials_rejected_stale :
    (turnAllocateUdp (refusingServer (.replicate 12 2) 38) (some ⟨"user", "pass"⟩) (.replicate 12 0)
      (.replicate 12 2)).outcome = .credentialsRejected ↔ (38 : UInt8) ≠ 1 :=
  (credentials_rejected_iff ⟨"user", "pass"⟩ (.replicate 12 0) (.replicate 12 2) _ 38
    (refusal_refuses _ 38) (.inr (.inl rfl))).1 _ (refusal_challenged _ _ _ 38)

/-- A 401 to the authenticated request is reported as if no credentials had been presented. -/
theorem rejected_credentials_unauthorized :
    ¬ ∀ (creds : TurnCredentials) (txn1 txn2 : Vector UInt8 12)
    (second : Bytes) (number : UInt8), Refuses second txn2 number → FailsAuthentication number →
    ∀ socket : UdpSocket, Challenged UdpSocket.transport socket creds txn1 txn2 second →
      (turnAllocateUdp socket (some creds) txn1 txn2).outcome = .credentialsRejected := by
  intro claim
  have failure : FailsAuthentication 1 := .inl rfl
  have refuses := refusal_refuses (.replicate 12 2) 1
  have challenged := refusal_challenged ⟨"user", "pass"⟩ (.replicate 12 0) (.replicate 12 2) 1
  have reported := claim _ _ _ _ 1 refuses failure _ challenged
  exact (challenged.rejected_iff refuses failure).mp reported rfl

end FragglePacket.NetworkTests
