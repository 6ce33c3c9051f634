import FragglePacket.NetworkTests.EcmpNat
import Mathlib.Tactic.Common

/-! What the buckets of a split really asked of the path. -/

namespace FragglePacket.NetworkTests

open FragglePacket.Net FragglePacket.Wire

/-- A bucket's own socket, and what it sends to whom. -/
structure BucketFlow where
  socket : Nat
  payload : Bytes
  target : SocketAddr

/-- The events by which a bucket asks something of the path. -/
def SocketEvent.concerns (flow : BucketFlow) : SocketEvent → Bool
  | .sendTo socket payload target _ =>
    socket == flow.socket && payload == flow.payload && target == flow.target
  | .connect socket target _ => socket == flow.socket && target == flow.target
  | .writeAll socket payload _ => socket == flow.socket && payload == flow.payload
  | _ => false

def SocketEvent.went : SocketEvent → Bool
  | .sendTo _ _ _ sent => sent
  | .connect _ _ connected => connected
  | .writeAll _ _ written => written
  | _ => true

/-- What became of a bucket: its payload was accepted, the path refused it, or
the path was never asked. -/
inductive BucketFate where
  | accepted
  | failedOnPath
  | neverAsked
  deriving DecidableEq

def fateOf (asked : SocketHistory) : BucketFate :=
  if asked = [] then .neverAsked else if asked.all (·.went) then .accepted else .failedOnPath

section Asking
variable {flow : BucketFlow} {past next last asked more : SocketHistory} {event : SocketEvent}

/-- The history goes on, and this is what the bucket asks of the path in it. -/
def Asks (flow : BucketFlow) (past next asked : SocketHistory) : Prop :=
  ∃ events, next = past ++ events ∧ events.filter (·.concerns flow) = asked

theorem Asks.refl (flow : BucketFlow) (past : SocketHistory) : Asks flow past past [] :=
  ⟨[], by simp, rfl⟩

theorem Asks.quiet (other : event.concerns flow = false) : Asks flow past (past ++ [event]) [] :=
  ⟨[event], rfl, by simp [other]⟩

theorem Asks.one (own : event.concerns flow = true) : Asks flow past (past ++ [event]) [event] :=
  ⟨[event], rfl, by simp [own]⟩

theorem Asks.trans (first : Asks flow past next asked) (second : Asks flow next last more) :
    Asks flow past last (asked ++ more) := by
  obtain ⟨events, rfl, rfl⟩ := first
  obtain ⟨later, rfl, rfl⟩ := second
  exact ⟨events ++ later, List.append_assoc _ _ _, List.filter_append _ _⟩

theorem Asks.drop (asks : Asks flow past next asked) :
    (next.drop past.length).filter (·.concerns flow) = asked := by
  obtain ⟨events, rfl, own⟩ := asks
  rw [List.drop_left, own]

end Asking

section Parts
variable (host : SocketHost) (flow : BucketFlow)

theorem udpPayload_ne_request (payloadLen : Nat) (txn : Vector UInt8 12) :
    (buildBindingRequest txn).1 ≠ udpPayload payloadLen := by
  intro same
  have firsts := congrArg List.head? same
  rw [udpPayload, List.head?_replicate, if_neg (by omega)] at firsts
  simp [buildBindingRequest, buildMessage, bindingRequest, be16, highByte] at firsts

/-- A sample asks the STUN server, and closes nothing. -/
theorem bindingRequestOnce_events (past : SocketHistory) (socket : Nat) (server : SocketAddr)
    (timeout : Nat) :
    ∃ events, (bindingRequestOnce host past socket server timeout).2 = past ++ events ∧
      ∀ event ∈ events, (∃ sent, event =
        .sendTo socket (buildBindingRequest (host.transactionId past)).1 server sent) ∨
        ∃ datagram, event = .recvFrom socket datagram := by
  rw [bindingRequestOnce]
  cases sent : host.sendTo past socket (buildBindingRequest (host.transactionId past)).1 server with
  | false =>
    simp only [sent, if_pos]
    exact ⟨_, rfl, by simp⟩
  | true =>
    simp only [sent, Bool.true_eq_false, if_false]
    refine ⟨[.sendTo socket (buildBindingRequest (host.transactionId past)).1 server true,
      .recvFrom socket (host.recvFrom
        (past ++ [.sendTo socket (buildBindingRequest (host.transactionId past)).1 server true])
        socket timeout)], ?_, by simp⟩
    split
    · simp
    · split <;> simp

theorem bindingRequestOnce_asks (past : SocketHistory) (socket : Nat) (server : SocketAddr)
    (timeout payloadLen : Nat) (filled : flow.payload = udpPayload payloadLen) :
    Asks flow past (bindingRequestOnce host past socket server timeout).2 [] := by
  obtain ⟨events, next, samples⟩ := bindingRequestOnce_events host past socket server timeout
  refine ⟨events, next, List.filter_eq_nil_iff.mpr fun event member => ?_⟩
  rcases samples event member with ⟨sent, rfl⟩ | ⟨datagram, rfl⟩
  · have other : ((buildBindingRequest (host.transactionId past)).1 == flow.payload) = false := by
      rw [filled]
      exact beq_false_of_ne (udpPayload_ne_request payloadLen _)
    simp [SocketEvent.concerns, other]
  · simp [SocketEvent.concerns]

/-- An exchange succeeds where its payload is accepted. -/
theorem exchangeOnce_succeeded (past : SocketHistory) (socket : Nat) (payload : Bytes)
    (target : SocketAddr) (timeout : Nat) :
    (exchangeOnce host past socket payload target timeout).1.sent =
      host.sendTo past socket payload target ∧
      ((exchangeOnce host past socket payload target timeout).1.outcome = .succeeded ↔
        host.sendTo past socket payload target = true) := by
  rw [exchangeOnce]
  cases sent : host.sendTo past socket payload target with
  | false =>
    simp only [if_pos]
    exact ⟨trivial, by decide⟩
  | true =>
    simp only [Bool.true_eq_false, if_false]
    split
    · exact ⟨rfl, iff_of_true rfl trivial⟩
    · exact ⟨rfl, iff_of_true rfl trivial⟩

/-- An exchange sends its payload once, and then only receives. -/
theorem exchangeOnce_events (past : SocketHistory) (socket : Nat) (payload : Bytes)
    (target : SocketAddr) (timeout : Nat) :
    ∃ received, (exchangeOnce host past socket payload target timeout).2 =
        past ++ .sendTo socket payload target (host.sendTo past socket payload target) :: received ∧
      ∀ event ∈ received, ∃ datagram, event = .recvFrom socket datagram := by
  rw [exchangeOnce]
  cases sent : host.sendTo past socket payload target with
  | false =>
    simp only [if_pos]
    exact ⟨[], rfl, by simp⟩
  | true =>
    simp only [Bool.true_eq_false, if_false]
    refine ⟨[.recvFrom socket (host.recvFrom (past ++ [.sendTo socket payload target true]) socket
      timeout)], ?_, by simp⟩
    split <;> exact List.append_assoc _ _ _

/-- An exchange asks the path once. -/
theorem exchangeOnce_asks (past : SocketHistory) (socket : Nat) (payload : Bytes)
    (target : SocketAddr) (timeout : Nat) :
    Asks ⟨socket, payload, target⟩ past (exchangeOnce host past socket payload target timeout).2
      [.sendTo socket payload target (host.sendTo past socket payload target)] := by
  obtain ⟨received, next, receives⟩ := exchangeOnce_events host past socket payload target timeout
  refine ⟨_, next, ?_⟩
  rw [List.filter_cons_of_pos (by simp [SocketEvent.concerns])]
  refine congrArg _ (List.filter_eq_nil_iff.mpr fun event member => ?_)
  obtain ⟨datagram, rfl⟩ := receives event member
  simp [SocketEvent.concerns]

/-- An exchange leaves the other sockets alone. -/
theorem exchangeOnce_elsewhere {socket : Nat} (elsewhere : flow.socket ≠ socket)
    (past : SocketHistory) (payload : Bytes) (target : SocketAddr) (timeout : Nat) :
    Asks flow past (exchangeOnce host past socket payload target timeout).2 [] := by
  obtain ⟨received, next, receives⟩ := exchangeOnce_events host past socket payload target timeout
  refine ⟨_, next, List.filter_eq_nil_iff.mpr fun event member => ?_⟩
  rcases List.mem_cons.mp member with rfl | later
  · simp [SocketEvent.concerns, Ne.symm elsewhere]
  · obtain ⟨datagram, rfl⟩ := receives event later
    simp [SocketEvent.concerns]

end Parts

section Runs
variable (host : SocketHost) (past : SocketHistory) (localPort : UInt16) (target : SocketAddr)
  (payloadLen timeout : Nat)

/-- The history once a bucket has its socket. -/
def openedAt : SocketHistory := past ++ [.bind past.length localPort true]

/-- A bucket is sent from the socket it binds. -/
theorem runUdpBucket_bound (bound : host.bind past (isV6 target) localPort = true) :
    ((runUdpBucket host past localPort target payloadLen timeout).1.outcome = .succeeded ↔
      host.sendTo (openedAt past localPort) past.length (udpPayload payloadLen) target = true) ∧
    (runUdpBucket host past localPort target payloadLen timeout).1.bytesSent =
      (if host.sendTo (openedAt past localPort) past.length (udpPayload payloadLen) target =
        true then max payloadLen 1
        else 0) ∧
    Asks ⟨past.length, udpPayload payloadLen, target⟩ past
      (runUdpBucket host past localPort target payloadLen timeout).2
      [.sendTo past.length (udpPayload payloadLen) target
        (host.sendTo (openedAt past localPort) past.length (udpPayload payloadLen) target)] := by
  obtain ⟨sent, succeeds⟩ :=
    exchangeOnce_succeeded host (openedAt past localPort) past.length (udpPayload payloadLen) target
      timeout
  rw [runUdpBucket]
  simp only [bound, Bool.true_eq_false, if_false]
  refine ⟨succeeds, ?_, ?_⟩
  · change (if (exchangeOnce host (openedAt past localPort) past.length
      (udpPayload payloadLen) target timeout).1.sent = true
      then (udpPayload payloadLen).length else 0) = _
    rw [sent, udpPayload, List.length_replicate]
  · have opened : Asks ⟨past.length, udpPayload payloadLen, target⟩ past (openedAt past localPort)
        [] := .quiet rfl
    have asks := exchangeOnce_asks host (openedAt past localPort) past.length
      (udpPayload payloadLen) target timeout
    exact (opened.trans asks).trans (.quiet rfl)

theorem runUdpBucket_unbound (refused : host.bind past (isV6 target) localPort = false) :
    runUdpBucket host past localPort target payloadLen timeout =
      (failedBucket localPort, past ++ [.bind past.length localPort false]) := by
  rw [runUdpBucket]
  simp only [refused, if_true]

/-- A bucket leaves the other sockets alone. -/
theorem runUdpBucket_elsewhere (flow : BucketFlow) (elsewhere : flow.socket ≠ past.length) :
    Asks flow past (runUdpBucket host past localPort target payloadLen timeout).2 [] := by
  cases bound : host.bind past (isV6 target) localPort with
  | false =>
    rw [runUdpBucket_unbound host past localPort target payloadLen timeout bound]
    exact .quiet rfl
  | true =>
    have quiet := exchangeOnce_elsewhere host flow elsewhere (openedAt past localPort)
      (udpPayload payloadLen) target timeout
    rw [runUdpBucket]
    simp only [bound, Bool.true_eq_false, if_false]
    have opened : Asks flow past (openedAt past localPort) [] := .quiet rfl
    exact (opened.trans quiet).trans (.quiet rfl)

end Runs

section Bracket
variable (host : SocketHost) (past : SocketHistory) (localPort : UInt16)
  (target stunServer : SocketAddr) (payloadLen timeout : Nat)

/-- The history once the first sample of a bracket is taken. -/
def sampledAt : SocketHistory :=
  (bindingRequestOnce host (openedAt past localPort) past.length stunServer timeout).2

/-- The history once a bracket has run the bucket inside. -/
def reboundAt : SocketHistory :=
  (runUdpBucket host (sampledAt host past localPort stunServer timeout) localPort target
    payloadLen timeout).2

theorem past_lt_sampledAt :
    past.length < (sampledAt host past localPort stunServer timeout).length := by
  obtain ⟨events, next, -⟩ :=
    bindingRequestOnce_events host (openedAt past localPort) past.length stunServer timeout
  rw [sampledAt, next, openedAt]
  simp only [List.length_append, List.length_singleton]
  omega

/-- A bracket sends the payload from its own socket, and counts the bytes of the bucket inside. -/
theorem bracket_bound (bound : host.bind past false localPort = true) :
    ((runUdpBucketWithStunBracket host past localPort target stunServer
      payloadLen timeout).1.outcome = .succeeded ↔
      host.sendTo (reboundAt host past localPort target stunServer payloadLen timeout) past.length
        (udpPayload payloadLen)
        target = true) ∧
    (runUdpBucketWithStunBracket host past localPort target stunServer
      payloadLen timeout).1.bytesSent =
      (runUdpBucket host (sampledAt host past localPort stunServer timeout) localPort target
        payloadLen timeout).1.bytesSent ∧
    Asks ⟨past.length, udpPayload payloadLen, target⟩ past
      (runUdpBucketWithStunBracket host past localPort target stunServer payloadLen timeout).2
      [.sendTo past.length (udpPayload payloadLen) target
        (host.sendTo (reboundAt host past localPort target stunServer payloadLen timeout)
          past.length (udpPayload payloadLen)
          target)] := by
  obtain ⟨-, succeeds⟩ :=
    exchangeOnce_succeeded host (reboundAt host past localPort target stunServer payloadLen timeout)
      past.length (udpPayload payloadLen) target timeout
  rw [runUdpBucketWithStunBracket]
  simp only [bound, Bool.true_eq_false, if_false]
  refine ⟨succeeds, rfl, ?_⟩
  have opened : Asks ⟨past.length, udpPayload payloadLen, target⟩ past (openedAt past localPort)
      [] := .quiet rfl
  have sampled := bindingRequestOnce_asks host ⟨past.length, udpPayload payloadLen, target⟩
    (openedAt past localPort) past.length stunServer timeout payloadLen rfl
  have rebound := runUdpBucket_elsewhere host (sampledAt host past localPort stunServer timeout)
    localPort target payloadLen
    timeout ⟨past.length, udpPayload payloadLen, target⟩
    (Nat.ne_of_lt (past_lt_sampledAt host past localPort stunServer timeout))
  have asks := exchangeOnce_asks host
    (reboundAt host past localPort target stunServer payloadLen timeout) past.length
    (udpPayload payloadLen) target timeout
  have resampled := bindingRequestOnce_asks host ⟨past.length, udpPayload payloadLen, target⟩
    (exchangeOnce host (reboundAt host past localPort target stunServer payloadLen timeout)
      past.length
      (udpPayload payloadLen) target timeout).2 past.length stunServer timeout payloadLen rfl
  exact ((((opened.trans sampled).trans rebound).trans asks).trans resampled).trans (.quiet rfl)

theorem bracket_unbound (refused : host.bind past false localPort = false) :
    runUdpBucketWithStunBracket host past localPort target stunServer payloadLen timeout =
      (failedBucket localPort, past ++ [.bind past.length localPort false]) := by
  rw [runUdpBucketWithStunBracket]
  simp only [refused, if_true]

/-- Whether a socket that is bound to a port has not been closed. -/
def held (localPort : UInt16) : SocketHistory → Bool
  | [] => false
  | .bind socket port bound :: later =>
    (bound && port == localPort && !later.contains (.close socket)) || held localPort later
  | _ :: later => held localPort later

/-- A port that a socket is bound to cannot be bound a second time. Port 0 is a
request for any free one. -/
def SocketHost.Exclusive : Prop :=
  ∀ past v6 localPort, localPort ≠ 0 → held localPort past = true →
    host.bind past v6 localPort = false

theorem held_append {events : SocketHistory} (holds : held localPort events = true) :
    held localPort (past ++ events) = true := by
  induction past with
  | nil => exact holds
  | cons event past ih =>
    rw [List.cons_append]
    cases event <;> simp [held, ih]

theorem held_sampledAt :
    held localPort (sampledAt host past localPort stunServer timeout) = true := by
  obtain ⟨events, next, samples⟩ :=
    bindingRequestOnce_events host (openedAt past localPort) past.length stunServer timeout
  rw [sampledAt, next, openedAt, List.append_assoc, List.singleton_append]
  apply held_append
  have unclosed : SocketEvent.close past.length ∉ events := by
    intro closed
    rcases samples _ closed with ⟨_, other⟩ | ⟨_, other⟩
    · cases other
    · cases other
  simp [held, unclosed]

end Bracket

section Tcp
variable (host : SocketHost) (past : SocketHistory) (localPort : UInt16) (target : SocketAddr)
  (payloadLen timeout : Nat)

theorem tcpBucketFromStream_asks (socket : Nat) (flow : BucketFlow) (own : flow.socket = socket)
    (filled : flow.payload = tcpPayload payloadLen) :
    Asks flow past (tcpBucketFromStream host past socket localPort payloadLen timeout).2
        [.writeAll socket (tcpPayload payloadLen)
          (host.writeAll past socket (tcpPayload payloadLen))] ∧
      ((tcpBucketFromStream host past socket localPort payloadLen timeout).1.outcome = .succeeded ↔
        host.writeAll past socket (tcpPayload payloadLen) = true) := by
  have concerned (written : Bool) :
      (SocketEvent.writeAll socket (tcpPayload payloadLen) written).concerns flow = true := by
    simp [SocketEvent.concerns, own, filled]
  rw [tcpBucketFromStream]
  cases written : host.writeAll past socket (tcpPayload payloadLen) with
  | false =>
    simp only [if_pos]
    exact ⟨(Asks.one (concerned false)).trans (.quiet rfl), by simp [failedBucket]⟩
  | true =>
    simp only [Bool.true_eq_false, if_false]
    exact ⟨((Asks.one (concerned true)).trans (.quiet rfl)).trans (.quiet rfl), by simp⟩

/-- A TCP bucket succeeds where it connects and its payload is written. -/
theorem runTcpBucket_fate : ∃ asked,
    Asks ⟨past.length, tcpPayload payloadLen, target⟩ past
        (runTcpBucket host past localPort target payloadLen timeout).2 asked ∧
      ((runTcpBucket host past localPort target payloadLen timeout).1.outcome = .succeeded ↔
        fateOf asked = .accepted) := by
  rw [runTcpBucket]
  cases created : host.newTcp past (isV6 target) with
  | false => exact ⟨[], .refl _ past, by simp [failedBucket, fateOf]⟩
  | true =>
    cases reused : host.setReuseAddress past with
    | false => exact ⟨[], .refl _ past, by simp [failedBucket, fateOf]⟩
    | true =>
      simp only [Bool.true_eq_false, if_false]
      cases bound : host.bindTcp past (isV6 target) localPort with
      | false => exact ⟨[], .quiet rfl, by simp [failedBucket, fateOf]⟩
      | true =>
        have opened : Asks ⟨past.length, tcpPayload payloadLen, target⟩ past
          (past ++ [.bindTcp past.length localPort true]) [] := .quiet rfl
        have own (connected : Bool) : (SocketEvent.connect past.length target connected).concerns
            ⟨past.length, tcpPayload payloadLen, target⟩ = true := by
          simp [SocketEvent.concerns]
        simp only [Bool.true_eq_false, if_false]
        cases connected : host.connect (past ++ [.bindTcp past.length localPort true]) past.length
          target timeout with
        | false =>
          exact ⟨_, (opened.trans (.one (own false))).trans (.quiet rfl),
            by simp [failedBucket, fateOf, SocketEvent.went]⟩
        | true =>
          obtain ⟨asks, succeeds⟩ := tcpBucketFromStream_asks host
            (past ++ [.bindTcp past.length localPort true] ++ [.connect past.length target true])
              localPort payloadLen timeout
            past.length ⟨past.length, tcpPayload payloadLen, target⟩ rfl rfl
          refine ⟨_, (opened.trans (.one (own true))).trans asks, ?_⟩
          simp only [Bool.true_eq_false, if_false]
          rw [succeeds]
          simp [fateOf, SocketEvent.went]

end Tcp

section Buckets
variable (host : SocketHost) (past : SocketHistory) (target : SocketAddr) (payloadLen timeout : Nat)

theorem fateOf_sendTo {socket : Nat} {payload : Bytes} (sent : Bool) :
    fateOf [.sendTo socket payload target sent] = .accepted ↔ sent = true := by
  cases sent <;> simp [fateOf, SocketEvent.went]

theorem unbound_fate (localPort : UInt16) (payload : Bytes) : ∃ asked,
    Asks ⟨past.length, payload, target⟩ past (past ++ [.bind past.length localPort false]) asked ∧
      ((failedBucket localPort).outcome = .succeeded ↔ fateOf asked = .accepted) :=
  ⟨[], .quiet rfl, by simp [failedBucket, fateOf]⟩

/-- A bucket succeeds exactly where the path accepts what it asks. -/
theorem runBucket_fate (kind : BucketKind) (localPort : UInt16) : ∃ asked,
    Asks ⟨past.length, kind.payload payloadLen, target⟩ past
      (runBucket host past kind localPort target payloadLen timeout).2
      asked ∧
    ((runBucket host past kind localPort target payloadLen timeout).1.outcome = .succeeded ↔
      fateOf asked = .accepted) := by
  cases kind with
  | udp =>
    rw [runBucket, BucketKind.payload]
    cases bound : host.bind past (isV6 target) localPort with
    | false =>
      rw [runUdpBucket_unbound host past localPort target payloadLen timeout bound]
      exact unbound_fate past target localPort _
    | true =>
      obtain ⟨succeeds, -, asks⟩ :=
        runUdpBucket_bound host past localPort target payloadLen timeout bound
      exact ⟨_, asks, succeeds.trans (fateOf_sendTo target _).symm⟩
  | udpWithStun stunServer =>
    rw [runBucket, BucketKind.payload]
    cases bound : host.bind past false localPort with
    | false =>
      rw [bracket_unbound host past localPort target stunServer payloadLen timeout bound]
      exact unbound_fate past target localPort _
    | true =>
      obtain ⟨succeeds, -, asks⟩ :=
        bracket_bound host past localPort target stunServer payloadLen timeout bound
      exact ⟨_, asks, succeeds.trans (fateOf_sendTo target _).symm⟩
  | tcp => exact runTcpBucket_fate host past localPort target payloadLen timeout

/-- A bucket that was run, and what became of it. -/
structure BucketRun where
  result : BucketResult
  fate : BucketFate

/-- Buckets run one behind the other. -/
def runBuckets (past : SocketHistory) : List (BucketKind × UInt16) → List BucketRun
  | [] => []
  | (kind, localPort) :: rest =>
    let (result, next) := runBucket host past kind localPort target payloadLen timeout
    let asked :=
      (next.drop past.length).filter (·.concerns ⟨past.length, kind.payload payloadLen, target⟩)
    ⟨result, fateOf asked⟩ :: runBuckets next rest

theorem runBuckets_fate (buckets : List (BucketKind × UInt16)) :
    ∀ run ∈ runBuckets host target payloadLen timeout past buckets,
      run.result.outcome = .succeeded ↔ run.fate = .accepted := by
  induction buckets generalizing past with
  | nil => exact fun run member => absurd member List.not_mem_nil
  | cons bucket rest ih =>
    obtain ⟨kind, localPort⟩ := bucket
    obtain ⟨asked, asks, succeeds⟩ :=
      runBucket_fate host past target payloadLen timeout kind localPort
    rw [← asks.drop] at succeeds
    exact List.forall_mem_cons.mpr ⟨succeeds, ih _⟩

end Buckets

theorem outcome_ne_succeeded {result : BucketResult} :
    result.outcome ≠ .succeeded ↔ result.outcome = .failed := by
  cases result.outcome <;> simp

theorem classifyBimodality_split_iff {results : List BucketResult} :
    classifyBimodality results = .bimodalSplitDetected ↔
      (∃ r ∈ results, r.outcome = .succeeded) ∧ ∃ r ∈ results, r.outcome = .failed := by
  rw [classifyBimodality]
  by_cases few : results.length < 2
  · rw [if_pos few]
    refine iff_of_false (by decide) ?_
    rintro ⟨⟨first, inFirst, succeeded⟩, second, inSecond, failed⟩
    match results, few with
    | [], _ => cases inFirst
    | [only], _ =>
      rw [List.mem_singleton.mp inFirst] at succeeded
      rw [List.mem_singleton.mp inSecond, succeeded] at failed
      cases failed
  · rw [if_neg few]
    simp only [ite_eq_left_iff, Bool.and_eq_true, List.any_eq_true, decide_eq_true_eq]
    constructor
    · intro split
      by_contra missing
      exact absurd (split missing) (by decide)
    · intro both missing
      exact absurd both missing

section Claims
variable (host : SocketHost) (past : SocketHistory) (localPort : UInt16)
  (target stunServer : SocketAddr) (payloadLen timeout : Nat) (buckets : List (BucketKind × UInt16))

/-- A bracket that succeeds has sent the payload once from its own socket, and counts its bytes. -/
def BracketCounted : Prop :=
  (runUdpBucketWithStunBracket host past localPort target stunServer payloadLen timeout).1.outcome =
    .succeeded → (runUdpBucketWithStunBracket host past localPort target stunServer
      payloadLen timeout).1.bytesSent = max payloadLen 1 ∧
    ((runUdpBucketWithStunBracket host past localPort target stunServer
      payloadLen timeout).2.drop past.length).filter
      (·.concerns ⟨past.length, udpPayload payloadLen, target⟩) =
        [.sendTo past.length (udpPayload payloadLen) target true]

/-- A split is reported only where the path accepts one bucket and fails another. -/
def SplitOnPath : Prop :=
  classifyBimodality ((runBuckets host target payloadLen timeout past buckets).map (·.result)) =
    .bimodalSplitDetected →
    (∃ run ∈ runBuckets host target payloadLen timeout past buckets, run.fate = .accepted) ∧
      ∃ run ∈ runBuckets host target payloadLen timeout past buckets, run.fate = .failedOnPath

/-- Where a bracket has a socket that the payload can be sent from, it asked for any port, and the
bucket inside was sent from one of its own as well. -/
def BracketSentTwice : Prop :=
  host.bind past false localPort = true →
    host.sendTo (reboundAt host past localPort target stunServer payloadLen timeout) past.length
      (udpPayload payloadLen)
        target =
      true →
    localPort = 0 ∧ host.bind (sampledAt host past localPort stunServer timeout)
      (isV6 target) localPort = true ∧
      host.sendTo (openedAt (sampledAt host past localPort stunServer timeout) localPort)
        (sampledAt host past localPort stunServer timeout).length (udpPayload payloadLen) target =
          true

/-- Where the path accepts a bucket and another one is never sent, the path fails some bucket. -/
def PathToBlame : Prop :=
  (∃ run ∈ runBuckets host target payloadLen timeout past buckets, run.fate = .accepted) →
    (∃ run ∈ runBuckets host target payloadLen timeout past buckets, run.fate = .neverAsked) →
    ∃ run ∈ runBuckets host target payloadLen timeout past buckets, run.fate = .failedOnPath

variable {host past localPort target stunServer payloadLen timeout buckets}

theorem bracketCounted_iff (exclusive : host.Exclusive) :
    BracketCounted host past localPort target stunServer payloadLen timeout ↔
      BracketSentTwice host past localPort target stunServer payloadLen timeout := by
  rw [BracketCounted, BracketSentTwice]
  cases bound : host.bind past false localPort with
  | false =>
    rw [bracket_unbound host past localPort target stunServer payloadLen timeout bound]
    simp [failedBucket]
  | true =>
    obtain ⟨succeeds, counts, asks⟩ :=
      bracket_bound host past localPort target stunServer payloadLen timeout bound
    rw [succeeds, counts, asks.drop, eq_self true, true_imp_iff]
    refine imp_congr_right fun sent => ?_
    rw [sent, and_iff_left rfl]
    have someByte : 0 ≠ max payloadLen 1 := by omega
    cases again : host.bind (sampledAt host past localPort stunServer timeout)
      (isV6 target) localPort with
    | false =>
      rw [runUdpBucket_unbound host _ localPort target payloadLen timeout again]
      simp [failedBucket, someByte]
    | true =>
      obtain ⟨-, inside, -⟩ :=
        runUdpBucket_bound host (sampledAt host past localPort stunServer timeout) localPort target
          payloadLen timeout again
      have anyPort : localPort = 0 := by
        by_contra asked
        rw [exclusive _ _ _ asked (held_sampledAt host past localPort stunServer timeout)] at again
        cases again
      rw [inside]
      simp [anyPort, someByte]

theorem splitOnPath_iff :
    SplitOnPath host past target payloadLen timeout buckets ↔
      PathToBlame host past target payloadLen timeout buckets := by
  have fates := runBuckets_fate host past target payloadLen timeout buckets
  rw [SplitOnPath, PathToBlame, classifyBimodality_split_iff]
  simp only [List.mem_map, exists_exists_and_eq_and]
  constructor
  · rintro split ⟨good, isGood, accepted⟩ ⟨idle, isIdle, never⟩
    have failed : idle.result.outcome = .failed := by
      rw [← outcome_ne_succeeded, Ne, fates idle isIdle, never]
      decide
    exact (split ⟨⟨good, isGood, (fates good isGood).mpr accepted⟩, idle, isIdle, failed⟩).2
  · rintro blame ⟨⟨good, isGood, succeeded⟩, bad, isBad, failed⟩
    have accepted := (fates good isGood).mp succeeded
    refine ⟨⟨good, isGood, accepted⟩, ?_⟩
    cases fate : bad.fate with
    | accepted =>
      rw [(fates bad isBad).mpr fate] at failed
      cases failed
    | failedOnPath => exact ⟨bad, isBad, fate⟩
    | neverAsked => exact blame ⟨good, isGood, accepted⟩ ⟨bad, isBad, fate⟩

/-- Flows are what a bucket counts and what a split rests on exactly where no bucket's
own bind gets in the way. -/
theorem split_of_flows_iff (exclusive : host.Exclusive) :
    (BracketCounted host past localPort target stunServer payloadLen timeout ∧
      SplitOnPath host past target payloadLen timeout buckets) ↔
    (BracketSentTwice host past localPort target stunServer payloadLen timeout ∧
      PathToBlame host past target payloadLen timeout buckets) :=
  and_congr (bracketCounted_iff exclusive) splitOnPath_iff

/-- A host whose ports are bound once and whose path takes everything and answers nothing. -/
def silentHost : SocketHost where
  bind past _ localPort := localPort == 0 || !held localPort past
  sendTo _ _ _ _ := true
  recvFrom _ _ _ := none
  newTcp _ _ := true
  setReuseAddress _ := true
  bindTcp _ _ _ := true
  connect _ _ _ _ := true
  writeAll _ _ _ := true
  read _ _ _ := none
  transactionId _ := .replicate 12 0
  clock _ := 0

theorem silentHost_exclusive : silentHost.Exclusive := by
  intro past v6 localPort asked holds
  simp [silentHost, asked, holds]

/-- An address of documentation. -/
def farHost : SocketAddr := ⟨.v4 ⟨192, 0, 2, 1⟩, 9⟩

theorem split_of_flows_silent :
    (BracketCounted silentHost [] 40000 farHost farHost 64 1000 ∧
      SplitOnPath silentHost [] farHost 64 1000 [(.udp, 40000), (.udp, 40001)]) ↔
    (BracketSentTwice silentHost [] 40000 farHost farHost 64 1000 ∧
      PathToBlame silentHost [] farHost 64 1000 [(.udp, 40000), (.udp, 40001)]) :=
  split_of_flows_iff silentHost_exclusive

/-- A bracket counts nothing of what it sends, and a port that another program
holds splits the buckets. -/
theorem split_of_no_flow :
    silentHost.Exclusive ∧ ¬ BracketCounted silentHost [] 40000 farHost farHost 64 1000 ∧
      ¬ SplitOnPath silentHost [.bind 0 40001 true] farHost 64 1000
        [(.udp, 40000), (.udp, 40001)] := by
  refine ⟨silentHost_exclusive, fun counted => ?_, fun onPath => ?_⟩
  · have bytes := (counted (by decide)).1
    exact absurd bytes (by decide)
  · obtain ⟨-, run, member, failed⟩ := onPath (by decide)
    revert run
    decide

end Claims

end FragglePacket.NetworkTests
