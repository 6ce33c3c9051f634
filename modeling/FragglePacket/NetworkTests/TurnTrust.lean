import FragglePacket.NetworkTests.StunRoundTrip
import FragglePacket.NetworkTests.Turn

/-! Which messages the TURN exchange acts on. -/

namespace FragglePacket.NetworkTests

open FragglePacket.Net FragglePacket.Wire

/-- The message carries the transaction id. -/
def CarriesTxn (message : Bytes) (txn : Vector UInt8 12) : Prop :=
  ∃ parsed, parseMessage message = .ok parsed ∧ parsed.transactionId = txn

/-- The message carries the transaction id and is a 401 error response. -/
def Challenge401 (message : Bytes) (txn : Vector UInt8 12) : Prop :=
  ∃ parsed, parseMessage message = .ok parsed ∧ parsed.transactionId = txn ∧
    parsed.msgType = allocateError ∧ extractErrorCode parsed.attrs = (4, 1)

/-- An exchange that acts on answers to its own requests only, whose ids are `txn1` and
`txn2`. -/
structure TrustsOwnAnswers (txn1 txn2 : Vector UInt8 12) (exchange : Exchange) : Prop where
  challenged : 1 < exchange.sent.length →
    ∃ first, exchange.received.head? = some first ∧ Challenge401 first txn1
  allocated : ∀ lifetime relayed, exchange.outcome = .allocated lifetime relayed →
    ∃ i answer txn, exchange.sent.length = i + 1 ∧ exchange.received[i]? = some answer ∧
      [txn1, txn2][i]? = some txn ∧
        parseAllocateResponse answer txn = .ok (.allocated lifetime relayed) ∧
      CarriesTxn answer txn

theorem parseAllocateResponse_carries {bytes : Bytes} {txn : Vector UInt8 12}
    {outcome : TurnOutcome} (accepted : parseAllocateResponse bytes txn = .ok outcome) :
    CarriesTxn bytes txn := by
  rw [parseAllocateResponse] at accepted
  cases parsing : parseMessage bytes with
  | error reason =>
    rw [parsing] at accepted
    cases accepted
  | ok parsed =>
    refine ⟨parsed, parsing, ?_⟩
    by_contra other
    simp only [parsing, Except.mapError, bind, Except.bind, if_pos other] at accepted
    cases accepted

theorem outcomeOf_allocated {answer : Except String TurnOutcome} {lifetime : UInt32}
    {relayed : SocketAddr} (reported : outcomeOf answer = .allocated lifetime relayed) :
    answer = .ok (.allocated lifetime relayed) := by
  cases answer with
  | error reason => cases reported
  | ok outcome => exact congrArg Except.ok reported

/-- What the exchange takes for a challenge: the message, its realm and its nonce. -/
def challengeOf (message : Bytes) : Option (ParsedMessage × String × Bytes) :=
  match parseMessage message with
  | .error _ => none
  | .ok parsed =>
    if parsed.msgType ≠ allocateError then none
    else
      match extractRealmNonce parsed.attrs with
      | (some realm, some nonce) => some (parsed, realm, nonce)
      | _ => none

theorem challengeOf_some {message : Bytes} {parsed : ParsedMessage} {realm : String} {nonce : Bytes}
    (taken : challengeOf message = some (parsed, realm, nonce)) :
    parseMessage message = .ok parsed ∧ parsed.msgType = allocateError ∧
      extractRealmNonce parsed.attrs = (some realm, some nonce) := by
  rw [challengeOf] at taken
  cases parsing : parseMessage message with
  | error reason =>
    rw [parsing] at taken
    cases taken
  | ok found =>
    simp only [parsing] at taken
    by_cases isError : found.msgType = allocateError
    · rw [if_neg (not_not_intro isError)] at taken
      split at taken
      · rename_i fields
        cases taken
        exact ⟨rfl, isError, fields⟩
      · cases taken
    · rw [if_pos isError] at taken
      cases taken

section Allocate
variable {σ : Type} {transport : Transport σ}

/-- An exchange without an authenticated request reports an allocation only from the
answer to its first one. -/
def Unauthenticated (txn1 : Vector UInt8 12) (exchange : Exchange) : Prop :=
  exchange.sent.length ≤ 1 ∧ ∀ lifetime relayed, exchange.outcome = .allocated lifetime relayed →
    exchange.sent.length = 1 ∧ ∃ first, exchange.received[0]? = some first ∧
      parseAllocateResponse first txn1 = .ok (.allocated lifetime relayed)

/-- An exchange with an authenticated request reports an allocation only from the answer
to that one. -/
def Authenticated (txn2 : Vector UInt8 12) (first : Bytes) (exchange : Exchange) : Prop :=
  exchange.sent.length = 2 ∧ exchange.received.head? = some first ∧
    ∀ lifetime relayed, exchange.outcome = .allocated lifetime relayed →
      ∃ second, exchange.received[1]? = some second ∧
        parseAllocateResponse second txn2 = .ok (.allocated lifetime relayed)

private theorem unauthenticated_of_outcome {txn1 : Vector UInt8 12} {sent received : List Bytes}
    {outcome : TurnOutcome} (few : sent.length ≤ 1)
    (reported : ∀ lifetime relayed, outcome ≠ .allocated lifetime relayed) :
    Unauthenticated txn1 ⟨sent, received, outcome⟩ :=
  ⟨few, fun lifetime relayed allocated => absurd allocated (reported lifetime relayed)⟩

/-- The authenticated request of the exchange. -/
def authenticatedRequest (creds : TurnCredentials) (realm : String) (nonce : Bytes)
    (txn2 : Vector UInt8 12) : Bytes :=
  buildAuthenticatedAllocateRequest txn2 creds.username realm nonce
    (longTermKey creds.username realm creds.password)

section Authenticate
variable (socket : σ) (creds : TurnCredentials) (realm : String) (nonce : Bytes)
  (txn1 txn2 : Vector UInt8 12) (req1 first : Bytes)

private theorem authenticate_refused
    (refused : transport.send socket (authenticatedRequest creds realm nonce txn2) = none) :
    Unauthenticated txn1 (authenticate transport socket creds realm nonce txn2 req1 first) := by
  rw [authenticatedRequest] at refused
  simp only [authenticate, refused]
  exact unauthenticated_of_outcome (Nat.le_refl 1) (by simp)

private theorem authenticate_sent {waiting : σ}
    (sent : transport.send socket (authenticatedRequest creds realm nonce txn2) = some waiting) :
    Authenticated txn2 first (authenticate transport socket creds realm nonce txn2 req1 first) := by
  rw [authenticatedRequest] at sent
  simp only [authenticate, sent]
  cases transport.receive waiting with
  | none => exact ⟨rfl, rfl, fun _ _ reported => by cases reported⟩
  | some answer =>
    exact ⟨rfl, rfl, fun _ _ reported => ⟨answer.1, rfl, outcomeOf_allocated reported⟩⟩

theorem answerFirst_challenge {parsed : ParsedMessage} {realm : String} {nonce : Bytes}
    (taken : challengeOf first = some (parsed, realm, nonce)) :
    answerFirst transport socket creds txn1 txn2 req1 first =
      authenticate transport socket creds realm nonce txn2 req1 first := by
  obtain ⟨parsing, isError, fields⟩ := challengeOf_some taken
  simp only [answerFirst, parsing, isError, fields, ne_eq, not_true_eq_false, if_false]

theorem answerFirst_other (taken : challengeOf first = none) :
    Unauthenticated txn1 (answerFirst transport socket creds txn1 txn2 req1 first) := by
  rw [challengeOf] at taken
  rw [answerFirst]
  cases parsing : parseMessage first with
  | error reason => exact unauthenticated_of_outcome (Nat.le_refl 1) (by simp)
  | ok found =>
    simp only [parsing] at taken
    dsimp only
    by_cases isError : found.msgType = allocateError
    · rw [if_neg (not_not_intro isError)] at taken ⊢
      generalize extractRealmNonce found.attrs = realmNonce at taken ⊢
      obtain ⟨realm, nonce⟩ := realmNonce
      cases realm with
      | none => exact unauthenticated_of_outcome (Nat.le_refl 1) (by simp)
      | some realm =>
        cases nonce with
        | none => exact unauthenticated_of_outcome (Nat.le_refl 1) (by simp)
        | some nonce => cases taken
    · rw [if_pos isError]
      exact ⟨Nat.le_refl 1, fun _ _ reported => ⟨rfl, first, rfl, outcomeOf_allocated reported⟩⟩

end Authenticate

section Trust
variable {txn1 txn2 : Vector UInt8 12} {exchange : Exchange}

theorem Unauthenticated.trusts (unauthenticated : Unauthenticated txn1 exchange) :
    TrustsOwnAnswers txn1 txn2 exchange := by
  obtain ⟨few, answers⟩ := unauthenticated
  refine ⟨fun many => absurd many (Nat.not_lt.mpr few), ?_⟩
  intro lifetime relayed reported
  obtain ⟨one, first, delivered, accepted⟩ := answers lifetime relayed reported
  exact ⟨0, first, txn1, one, delivered, rfl, accepted, parseAllocateResponse_carries accepted⟩

theorem Authenticated.trusts_iff {first : Bytes}
    (authenticated : Authenticated txn2 first exchange) :
    TrustsOwnAnswers txn1 txn2 exchange ↔ Challenge401 first txn1 := by
  obtain ⟨two, delivered, answers⟩ := authenticated
  constructor
  · intro trusts
    obtain ⟨message, head, challenge⟩ := trusts.challenged (two ▸ Nat.lt_succ_self 1)
    rw [delivered] at head
    cases head
    exact challenge
  · intro challenge
    refine ⟨fun _ => ⟨first, delivered, challenge⟩, ?_⟩
    intro lifetime relayed reported
    obtain ⟨second, arrived, accepted⟩ := answers lifetime relayed reported
    exact ⟨1, second, txn2, two, arrived, rfl, accepted, parseAllocateResponse_carries accepted⟩

end Trust

/-- A message that the exchange takes for a challenge carries the id of the first request
and the error code 401. -/
def OwnChallenge (message : Bytes) (txn1 : Vector UInt8 12) : Prop :=
  ∀ parsed realm nonce, challengeOf message = some (parsed, realm, nonce) →
    parsed.transactionId = txn1 ∧ extractErrorCode parsed.attrs = (4, 1)

theorem challenge401_iff {message : Bytes} {txn1 : Vector UInt8 12} {parsed : ParsedMessage}
    {realm : String} {nonce : Bytes} (taken : challengeOf message = some (parsed, realm, nonce)) :
    Challenge401 message txn1 ↔ OwnChallenge message txn1 := by
  obtain ⟨parsing, isError, -⟩ := challengeOf_some taken
  constructor
  · intro challenge found _ _ other
    obtain ⟨read, reading, carries, _, code⟩ := challenge
    rw [taken] at other
    cases other
    rw [parsing] at reading
    cases reading
    exact ⟨carries, code⟩
  · intro own
    obtain ⟨carries, code⟩ := own parsed realm nonce taken
    exact ⟨parsed, parsing, carries, isError, code⟩

theorem turnAllocate_credentialless (transport : Transport σ) (socket : σ)
    (txn1 txn2 : Vector UInt8 12) :
    TrustsOwnAnswers txn1 txn2 (turnAllocate transport socket none txn1 txn2) :=
  Unauthenticated.trusts (unauthenticated_of_outcome (Nat.zero_le 1) (by simp))

/-- A transport on which a number of sends go through before one fails, and which delivers
one message first, whatever was sent. -/
structure Budgeted (transport : Transport σ) (sends : σ → Nat)
    (firstMessage : σ → Option Bytes) : Prop where
  refuses : ∀ socket request, sends socket = 0 → transport.send socket request = none
  accepts : ∀ socket request, sends socket ≠ 0 →
    ∃ asked, transport.send socket request = some asked ∧
    sends asked + 1 = sends socket ∧ firstMessage asked = firstMessage socket
  silent : ∀ socket, firstMessage socket = none → transport.receive socket = none
  delivers : ∀ socket message, firstMessage socket = some message →
    ∃ answered, transport.receive socket = some (message, answered) ∧ sends answered = sends socket

section Budgeted
variable {sends : σ → Nat} {firstMessage : σ → Option Bytes} {txn1 txn2 : Vector UInt8 12}

/-- After its first message, the exchange acts on its own answers exactly when the message it
can answer with an authenticated request is a challenge to its own request. -/
theorem Budgeted.answerFirst_trusts_iff (budgeted : Budgeted transport sends firstMessage)
    (socket : σ) (creds : TurnCredentials) (req1 first : Bytes) :
    TrustsOwnAnswers txn1 txn2 (answerFirst transport socket creds txn1 txn2 req1 first) ↔
      (sends socket ≠ 0 → OwnChallenge first txn1) := by
  cases taken : challengeOf first with
  | none =>
    have own : OwnChallenge first txn1 := by
      intro parsed realm nonce other
      rw [taken] at other
      cases other
    have nothing : Unauthenticated txn1 (answerFirst transport socket creds txn1 txn2 req1 first) :=
      answerFirst_other socket creds txn1 txn2 req1 first taken
    exact ⟨fun _ _ => own, fun _ => nothing.trusts⟩
  | some challenge =>
    obtain ⟨parsed, realm, nonce⟩ := challenge
    rw [answerFirst_challenge socket creds txn1 txn2 req1 first taken, ← challenge401_iff taken]
    by_cases exhausted : sends socket = 0
    · have refused :=
        budgeted.refuses socket (authenticatedRequest creds realm nonce txn2) exhausted
      have nothing := authenticate_refused socket creds realm nonce txn1 txn2 req1 first refused
      exact ⟨fun _ left => absurd exhausted left, fun _ => nothing.trusts⟩
    · obtain ⟨waiting, sent, -, -⟩ :=
        budgeted.accepts socket (authenticatedRequest creds realm nonce txn2) exhausted
      rw [(authenticate_sent socket creds realm nonce txn2 req1 first sent).trusts_iff]
      exact ⟨fun challenge _ => challenge, fun challenge => challenge exhausted⟩

/-- The whole exchange needs two sends to act on a message at all. -/
theorem Budgeted.trusts_iff (budgeted : Budgeted transport sends firstMessage) (socket : σ)
    (credentials : Option TurnCredentials) (txn1 txn2 : Vector UInt8 12) :
    TrustsOwnAnswers txn1 txn2 (turnAllocate transport socket credentials txn1 txn2) ↔
      (credentials.isSome → 2 ≤ sends socket → ∀ message ∈ firstMessage socket,
        OwnChallenge message txn1) := by
  cases credentials with
  | none =>
    exact ⟨fun _ given => (by cases given),
      fun _ => turnAllocate_credentialless transport socket txn1 txn2⟩
  | some creds =>
    by_cases exhausted : sends socket = 0
    · refine iff_of_true ?_ (fun _ many => absurd many (by omega))
      apply Unauthenticated.trusts
      simp only [turnAllocate, budgeted.refuses socket _ exhausted]
      exact unauthenticated_of_outcome (Nat.zero_le 1) (by simp)
    · obtain ⟨asked, sent, left, sameMessage⟩ :=
        budgeted.accepts socket (buildAllocateRequest txn1) exhausted
      simp only [turnAllocate, sent]
      rw [← sameMessage]
      cases arriving : firstMessage asked with
      | none =>
        refine iff_of_true ?_ (fun _ _ message member => (by cases member))
        apply Unauthenticated.trusts
        simp only [budgeted.silent asked arriving]
        exact unauthenticated_of_outcome (Nat.le_refl 1) (by simp)
      | some first =>
        obtain ⟨answered, delivery, sameLeft⟩ := budgeted.delivers asked first arriving
        simp only [delivery]
        rw [budgeted.answerFirst_trusts_iff, sameLeft]
        constructor
        · intro own _ many message member
          rw [← Option.some.inj member]
          exact own (by omega)
        · intro own more
          exact own rfl (by omega) first rfl

end Budgeted

end Allocate

/-- The first datagram, as far as the buffer takes it. -/
def UdpSocket.firstMessage (socket : UdpSocket) : Option Bytes :=
  socket.datagrams.head?.map (·.take 1024)

/-- The first message a stream delivers whole. -/
def TcpStream.firstMessage (stream : TcpStream) : Option Bytes :=
  (readOneStunMessage stream.incoming).map (·.1)

theorem UdpSocket.budgeted :
    Budgeted UdpSocket.transport UdpSocket.sends UdpSocket.firstMessage where
  refuses _ _ exhausted := if_pos exhausted
  accepts socket _ left := ⟨_, if_neg left, Nat.succ_pred_eq_of_ne_zero left, rfl⟩
  silent socket nothing := by
    obtain ⟨sends, datagrams⟩ := socket
    cases datagrams with
    | nil => rfl
    | cons datagram rest => cases nothing
  delivers socket message first := by
    obtain ⟨sends, datagrams⟩ := socket
    cases datagrams with
    | nil => cases first
    | cons datagram rest =>
      cases first
      exact ⟨⟨sends, rest⟩, rfl, rfl⟩

theorem TcpStream.budgeted :
    Budgeted TcpStream.transport TcpStream.writes TcpStream.firstMessage where
  refuses _ _ exhausted := if_pos exhausted
  accepts stream _ left := ⟨_, if_neg left, Nat.succ_pred_eq_of_ne_zero left, rfl⟩
  silent stream nothing := by
    have unread := Option.map_eq_none_iff.mp nothing
    simp only [TcpStream.transport, unread, Option.map_none]
  delivers stream message first := by
    obtain ⟨delivery, reading, rfl⟩ := Option.map_eq_some_iff.mp first
    exact ⟨{ stream with incoming := delivery.2 },
      by simp only [TcpStream.transport, reading, Option.map_some], rfl⟩

/-- The exchange acts only on answers to its own requests exactly where the first message,
if it is taken for a challenge and can be answered, carries the id of the first request and
the code 401. -/
theorem turn_trusts_own_answers_iff (credentials : Option TurnCredentials)
    (txn1 txn2 : Vector UInt8 12) :
    (∀ socket : UdpSocket, TrustsOwnAnswers txn1 txn2
      (turnAllocateUdp socket credentials txn1 txn2) ↔
      (credentials.isSome → 2 ≤ socket.sends → ∀ message ∈ socket.firstMessage,
        OwnChallenge message txn1)) ∧
    (∀ stream : TcpStream, TrustsOwnAnswers txn1 txn2
      (turnAllocateTcp stream credentials txn1 txn2) ↔
      (credentials.isSome → 2 ≤ stream.writes → ∀ message ∈ stream.firstMessage,
        OwnChallenge message txn1)) :=
  ⟨fun socket => UdpSocket.budgeted.trusts_iff socket credentials txn1 txn2,
    fun stream => TcpStream.budgeted.trusts_iff stream credentials txn1 txn2⟩

/-- The attributes of an error response with a realm and a nonce. -/
def forgedAttrs : List Attribute :=
  [(attrErrorCode, [0, 0, 4, 1]), (attrRealm, [0x72]), (attrNonce, [0x6e])]

/-- An error response under an id of its own. -/
def forgedChallenge : Bytes :=
  buildMessage allocateError (.replicate 12 0) (AttrBuilder.new.pushAll forgedAttrs).bytes

theorem challengeOf_forged : challengeOf forgedChallenge =
    some (⟨allocateError, .replicate 12 0, forgedAttrs⟩, "r", [0x6e]) := by
  have parsed : parseMessage forgedChallenge = .ok ⟨allocateError, .replicate 12 0, forgedAttrs⟩ :=
    parseMessage_build _ _ _ (by decide)
  have fields : extractRealmNonce forgedAttrs = (some "r", some [0x6e]) := by decide
  simp only [challengeOf, parsed, fields]
  rfl

/-- An error response under a foreign id draws the authenticated request, over datagrams
and over a stream. -/
theorem forged_challenge_answered :
    ¬ TrustsOwnAnswers (.replicate 12 1) (.replicate 12 2)
      (turnAllocateUdp ⟨2, [forgedChallenge]⟩ (some ⟨"user", "pass"⟩) (.replicate 12 1)
        (.replicate 12 2)) ∧
    ¬ TrustsOwnAnswers (.replicate 12 1) (.replicate 12 2)
      (turnAllocateTcp ⟨2, forgedChallenge⟩ (some ⟨"user", "pass"⟩) (.replicate 12 1)
        (.replicate 12 2)) := by
  have foreign : ¬ OwnChallenge forgedChallenge (.replicate 12 1) := by
    intro own
    exact absurd (own _ _ _ challengeOf_forged).1 (by decide)
  have datagram : (⟨2, [forgedChallenge]⟩ : UdpSocket).firstMessage =
      some forgedChallenge := by decide
  have message : (⟨2, forgedChallenge⟩ : TcpStream).firstMessage = some forgedChallenge := by decide
  constructor
  · rw [turnAllocateUdp, UdpSocket.budgeted.trusts_iff]
    intro trusts
    exact foreign (trusts rfl (Nat.le_refl 2) forgedChallenge datagram)
  · rw [turnAllocateTcp, TcpStream.budgeted.trusts_iff]
    intro trusts
    exact foreign (trusts rfl (Nat.le_refl 2) forgedChallenge message)

end FragglePacket.NetworkTests
