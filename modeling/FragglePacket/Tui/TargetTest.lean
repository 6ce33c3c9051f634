import FragglePacket.Probe.MtuSearch
import FragglePacket.Tui.SessionResult

/-! The test of one target: up to five threads measure it at once, and send what they find over a
channel to the thread that collects it until all is in or the time is up. -/

namespace FragglePacket.Tui

open FragglePacket.Probe FragglePacket.Search FragglePacket.Systems FragglePacket.Wire

/-- The threads, by the names they send their values under. -/
inductive Proto where
  | icmp
  | udp
  | tcp
  | mss
  | quic
deriving DecidableEq

/-- How a connection goes that some zeros are written to. Anything but the error for a message that
is too long leaves the size standing. -/
inductive TcpAttempt where
  | notConnected
  | writeFailed
  | flushFailed
  | readTooLong
  | notDisproven
deriving DecidableEq

/-- What the network does with the probes of each thread. -/
structure TargetNetwork where
  /-- The error of the resolver, where it has one. -/
  unresolved : Option String
  id : UInt16
  icmp : List Sent → Nat → EchoAttempt
  udp : List Sent → Nat → UdpAttempt
  tcpResolves : Bool
  tcp : List Sent → Nat → TcpAttempt
  /-- The segment size that the TCP thread reads, and the one that the MSS thread does. -/
  tcpThreadMss : Option Nat
  tcpMss : Option Nat
  quicMtu : Option Nat

structure TestLimits where
  minMtu : Nat
  maxMtu : Nat
  retries : Nat

namespace TargetNetwork

variable (network : TargetNetwork) (limits : TestLimits)

def icmpAttempts : Attempts :=
  fun sent payload => sendIcmpProbe network.id (network.icmp sent payload)

def udpAttempts : Attempts := fun sent payload => sendUdpProbe (network.udp sent payload)

/-- No more than 1460 bytes are written, whatever size is asked about. -/
def probeTcp (payloadSize : Nat) (sent : List Sent) : Bool × List Sent :=
  let testData := min payloadSize 1460
  let works := decide (network.tcp sent testData = .notDisproven)
  (works, sent ++ [⟨testData, works⟩])

/-- For HTTPS the MTU is the segment size and the headers; else it is searched for. -/
def binarySearchMtuTcp (port : UInt16) : Option Nat :=
  if network.tcpResolves then
    if port = 443 then network.tcpThreadMss.map (· + 40)
    else (searchIn (fun sent mid => network.probeTcp (mid - 40) sent) some limits.minMtu
      limits.maxMtu none []).1
  else none

/-- What each thread sends. -/
def value (port : UInt16) : Proto → Option Nat
  | .icmp =>
    let works := probeIcmp network.icmpAttempts 64 1 []
    if works.1 then
      some (binarySearchMtuIcmp network.icmpAttempts limits.minMtu limits.maxMtu
        limits.retries works.2).1
    else none
  | .udp => (binarySearchMtuUdp network.udpAttempts limits.minMtu limits.maxMtu limits.retries []).1
  | .tcp => network.binarySearchMtuTcp limits port
  | .mss => network.tcpMss
  | .quic => network.quicMtu

end TargetNetwork

/-- The threads that are spawned for a port. -/
def protosOf (port : UInt16) : List Proto :=
  if 0 < port then [.icmp, .udp, .tcp, .mss] ++ (if port = 443 then [.quic] else [])
  else [.icmp, .udp]

/-- How many values are waited for. -/
def expectedOf (port : UInt16) : Nat :=
  if 0 < port ∧ port = 443 then 5 else if 0 < port then 4 else 2

theorem expectedOf_eq (port : UInt16) : expectedOf port = (protosOf port).length := by
  unfold expectedOf protosOf
  by_cases https : port = 443
  · subst https
    rfl
  · by_cases positive : 0 < port <;> simp [https, positive]

namespace TestRunnerResult

def fresh (target : TargetSpec) : TestRunnerResult where
  target := target.1
  desc := target.2.1
  icmpMtu := none
  tcpMtu := none
  udpMtu := none
  quicMtu := none
  tcpMss := none
  error := none

def store (result : TestRunnerResult) (proto : Proto) (value : Option Nat) : TestRunnerResult :=
  match proto with
  | .icmp => { result with icmpMtu := value }
  | .udp => { result with udpMtu := value }
  | .tcp => { result with tcpMtu := value }
  | .mss => { result with tcpMss := value }
  | .quic => { result with quicMtu := value }

def field (result : TestRunnerResult) : Proto → Option Nat
  | .icmp => result.icmpMtu
  | .udp => result.udpMtu
  | .tcp => result.tcpMtu
  | .mss => result.tcpMss
  | .quic => result.quicMtu

@[simp] theorem field_store (result : TestRunnerResult) (proto other : Proto) (value : Option Nat) :
    (result.store proto value).field other = if other =
      proto then value else result.field other := by
  cases proto <;> cases other <;> rfl

@[simp] theorem field_fresh (target : TargetSpec) (proto : Proto) :
    (fresh target).field proto = none := by
  cases proto <;> rfl

/-- Nothing that a thread finds touches the names of the target, or its error. -/
@[simp] theorem store_names (result : TestRunnerResult) (proto : Proto) (value : Option Nat) :
    (result.store proto value).target = result.target ∧
      (result.store proto value).desc = result.desc ∧
      (result.store proto value).error = result.error := by
  cases proto <;> exact ⟨rfl, rfl, rfl⟩

end TestRunnerResult

/-- The threads that have not sent yet, the channel, and what the collecting loop has. -/
structure Collecting where
  unsent : List Proto
  queue : List (Proto × Option Nat)
  result : TestRunnerResult
  received : Nat
  inTime : Bool

inductive CollectEvent where
  | send (proto : Proto)
  | receive
  | deadline

namespace Collecting

def start (target : TargetSpec) : Collecting where
  unsent := protosOf target.2.2
  queue := []
  result := .fresh target
  received := 0
  inTime := true

/-- One event of a test: a thread is done, the loop takes a value, or it
sees that the time is up. -/
def step (value : Proto → Option Nat) (expected : Nat) (collecting : Collecting) :
    CollectEvent → Option Collecting
  | .send proto =>
    if proto ∈ collecting.unsent then
      some { collecting with
        unsent := collecting.unsent.erase proto
        queue := collecting.queue ++ [(proto, value proto)] }
    else none
  | .receive =>
    match collecting.queue with
    | [] => none
    | (proto, found) :: rest =>
      if collecting.inTime ∧ collecting.received < expected then
        some { collecting with
          queue := rest
          result := collecting.result.store proto found
          received := collecting.received + 1 }
      else none
  | .deadline =>
    if collecting.inTime ∧ collecting.received < expected then
      some { collecting with inTime := false } else none

/-- The loop has ended. -/
def Done (expected : Nat) (collecting : Collecting) : Prop :=
  collecting.inTime = false ∨ collecting.received = expected

end Collecting

/-- `test_single_target`: what a test may give, by the order in which its
threads come to their ends. -/
inductive Tested (target : TargetSpec) (network : TargetNetwork) (limits : TestLimits) :
    Bool → TestRunnerResult → Prop
  | unresolved {error : String} (failed : network.unresolved = some error) :
      Tested target network limits true
        { TestRunnerResult.fresh target with error := some ("DNS resolution failed: " ++ error) }
  | collected {events : List CollectEvent} {collecting : Collecting}
      (resolved : network.unresolved = none)
      (reached : runFrom (Collecting.step (network.value limits target.2.2) (expectedOf target.2.2))
        (Collecting.start target) events = some collecting)
      (done : collecting.Done (expectedOf target.2.2)) :
      Tested target network limits collecting.inTime collecting.result

namespace Collecting

section Run
variable {target : TargetSpec} {value : Proto → Option Nat} {expected : Nat}
  {collecting next : Collecting}

/-- Every thread is accounted for once: its value is stored, or in the channel, or still to come. -/
structure Sound (target : TargetSpec) (value : Proto → Option Nat)
    (collecting : Collecting) : Prop where
  accounted : ∃ stored : List Proto,
    (stored ++ (collecting.queue.map Prod.fst ++ collecting.unsent)).Perm (protosOf target.2.2) ∧
      collecting.received = stored.length ∧
      ∀ proto, collecting.result.field proto = if proto ∈ stored then value proto else none
  sent : ∀ entry ∈ collecting.queue, entry.2 = value entry.1
  named : collecting.result.target = target.1
  described : collecting.result.desc = target.2.1
  fine : collecting.result.error = none

theorem sound_start (target : TargetSpec) (value : Proto → Option Nat) :
    Sound target value (start target) where
  accounted := ⟨[], List.Perm.refl _, rfl, fun proto => by simp [start]⟩
  sent := fun entry queued => absurd queued List.not_mem_nil
  named := rfl
  described := rfl
  fine := rfl

theorem Sound.step (sound : Sound target value collecting) (event : CollectEvent)
    (stepped : collecting.step value expected event = some next) : Sound target value next := by
  obtain ⟨⟨stored, all, counted, fields⟩, sent, named, described, fine⟩ := sound
  cases event with
  | send proto =>
    obtain ⟨pending, moved⟩ := Option.ite_none_right_eq_some.mp stepped
    obtain rfl := Option.some.inj moved
    refine ⟨⟨stored, ?_, counted, fields⟩, ?_, named, described, fine⟩
    · refine List.Perm.trans (List.Perm.append_left stored ?_) all
      rw [List.map_append, List.map_singleton, List.append_assoc]
      exact List.Perm.append_left _ (List.perm_cons_erase pending).symm
    · intro entry queued
      rcases List.mem_append.mp queued with earlier | new
      · exact sent entry earlier
      · rw [List.mem_singleton.mp new]
  | receive =>
    rw [Collecting.step] at stepped
    cases queued : collecting.queue with
    | nil => simp [queued] at stepped
    | cons entry rest =>
      obtain ⟨proto, found⟩ := entry
      rw [queued] at stepped all sent
      obtain ⟨-, moved⟩ := Option.ite_none_right_eq_some.mp stepped
      obtain rfl := Option.some.inj moved
      obtain ⟨sameTarget, sameDesc, sameError⟩ := collecting.result.store_names proto found
      have own : found = value proto := sent (proto, found) List.mem_cons_self
      refine ⟨⟨stored ++ [proto], ?_, ?_, ?_⟩, fun other later =>
        sent other (List.mem_cons_of_mem _ later),
        sameTarget.trans named, sameDesc.trans described, sameError.trans fine⟩
      · rw [List.append_assoc]
        exact all
      · rw [List.length_append, List.length_singleton, counted]
      · intro other
        rw [TestRunnerResult.field_store, fields other]
        by_cases same : other = proto
        · subst same
          simp [own]
        · simp [same]
  | deadline =>
    obtain ⟨-, moved⟩ := Option.ite_none_right_eq_some.mp stepped
    obtain rfl := Option.some.inj moved
    exact ⟨⟨stored, all, counted, fields⟩, sent, named, described, fine⟩

theorem run_sound {events : List CollectEvent}
    (reached : runFrom (step value expected) (start target) events = some collecting) :
    Sound target value collecting :=
  state_invariant (sound_start target value)
    (fun _ event _ stepped sound => sound.step event stepped) reached

/-- A test that ends in time has every value. -/
theorem Sound.field_of_done (sound : Sound target value collecting)
    (done : collecting.Done (expectedOf target.2.2)) (inTime : collecting.inTime = true)
    (proto : Proto) :
    collecting.result.field proto = if proto ∈ protosOf target.2.2 then value proto else none := by
  obtain ⟨stored, all, counted, fields⟩ := sound.accounted
  have received : collecting.received = expectedOf target.2.2 :=
    done.resolve_left (by simp [inTime])
  have lengths := all.length_eq
  rw [List.length_append, ← counted, received, expectedOf_eq] at lengths
  have nothing : collecting.queue.map Prod.fst ++ collecting.unsent = [] :=
    List.length_eq_zero_iff.mp (by omega)
  rw [nothing, List.append_nil] at all
  simp only [fields proto, all.mem_iff]

end Run

end Collecting

/-- Whatever the order in which the threads of a test come to their ends, and wherever the
time runs out, the result has the names of its target, and each thread's own value or
nothing; and where the name is resolved and the time does not run out, it has the value of
every thread that was spawned. -/
theorem tested_fields {target : TargetSpec} {network : TargetNetwork} {limits : TestLimits}
    {inTime : Bool} {result : TestRunnerResult}
    (tested : Tested target network limits inTime result) :
    result.target = target.1 ∧ result.desc = target.2.1 ∧
      (result.error = none ↔ network.unresolved = none) ∧
      (∀ proto, result.field proto = none ∨
        result.field proto = network.value limits target.2.2 proto) ∧
      (network.unresolved = none → inTime = true → ∀ proto, result.field proto =
        if proto ∈ protosOf target.2.2 then network.value limits target.2.2 proto else none) := by
  cases tested with
  | unresolved failed =>
    refine ⟨rfl, rfl, by simp [failed], fun proto => Or.inl ?_, by simp [failed]⟩
    exact TestRunnerResult.field_fresh target proto
  | @collected events collecting resolved reached done =>
    have sound := Collecting.run_sound reached
    obtain ⟨stored, -, -, fields⟩ := sound.accounted
    refine ⟨sound.named, sound.described, iff_of_true sound.fine resolved, ?_,
      fun _ => sound.field_of_done done⟩
    intro proto
    rw [fields proto]
    split
    · exact Or.inr rfl
    · exact Or.inl rfl

/-- A host that answers pings of up to 1400 bytes, all but the second one, and takes datagrams of
any size in silence. -/
def pingNetwork : TargetNetwork where
  unresolved := none
  id := 7
  icmp := fun sent payload =>
    .heard (if payload + 28 ≤ 1400 ∧ sent.length ≠ 1 then
      [0x45 :: List.replicate 19 0 ++ [0, 0, 0, 0, 0, 7, 0, 0]] else [])
  udp := fun _ _ => .readFailed
  tcpResolves := false
  tcp := fun _ _ => .notConnected
  tcpThreadMss := none
  tcpMss := none
  quicMtu := none

def pingTarget : TargetSpec := ("192.0.2.1", "Router", 0)

def pingLimits : TestLimits := ⟨576, 1500, 2⟩

def pingValue : Proto → Option Nat := pingNetwork.value pingLimits 0

def pingResult : TestRunnerResult :=
  ((TestRunnerResult.fresh pingTarget).store .udp (pingValue .udp)).store .icmp (pingValue .icmp)

theorem tested_ping : Tested pingTarget pingNetwork pingLimits true pingResult :=
  @Tested.collected pingTarget pingNetwork pingLimits [.send .udp, .receive, .send .icmp, .receive]
    ⟨[], [], pingResult, 2, true⟩ rfl rfl (Or.inr rfl)

theorem tested_fields_ping : pingResult.error = none ∧ pingResult.field .udp = pingValue .udp := by
  obtain ⟨-, -, fine, -, values⟩ := tested_fields tested_ping
  exact ⟨fine.mpr rfl, values rfl rfl .udp⟩

/-- The ICMP thread's value of a test that ends in time. -/
theorem Tested.icmpMtu {target : TargetSpec} {network : TargetNetwork} {limits : TestLimits}
    {result : TestRunnerResult} (tested : Tested target network limits true result)
    (resolved : network.unresolved = none) :
    result.icmpMtu = network.value limits target.2.2 .icmp := by
  have spawned : Proto.icmp ∈ protosOf target.2.2 := by
    unfold protosOf
    split <;> simp
  generalize ended : true = inTime at tested
  cases tested with
  | unresolved failed => simp [resolved] at failed
  | @collected events collecting _ reached done =>
    have field := (Collecting.run_sound reached).field_of_done done ended.symm .icmp
    rwa [if_pos spawned] at field

section Shown
variable {targets : List TargetSpec} {outcome : Nat → Option TestRunnerResult} {before : AppState}
  {session : Session}
  {events : List SessionEvent} {index : Nat} {target : TargetSpec} {network : TargetNetwork}
  {limits : TestLimits} {result : TestRunnerResult}

/-- The row of a target in a session that is over has what its test gave. -/
theorem row_of_over
    (reached : runFrom (Session.step targets outcome) (Session.start targets before) events =
      some session) (closed : session.app.testing = false) (listed : targets[index]? = some target)
        (resulted : outcome index = some result) :
    session.app.results[index]? = some ((TargetResult.pending target).fill result) := by
  rw [Session.rows_of_over reached closed, List.getElem?_mapIdx, listed, Option.map_some, finalRow,
    resulted]

end Shown

/-- One target, whose thread is counted before its name is shown. -/
def pingSession : Session :=
  (runFrom (Session.step [pingTarget] fun _ => some pingResult) (Session.start [pingTarget] idle)
    [.announce, .spawn, .count 0, .receive, .send 0, .join, .receive, .receive, .receive]).getD
      (Session.start [] idle)

theorem pingSession_reached :
    runFrom (Session.step [pingTarget] fun _ => some pingResult) (Session.start [pingTarget] idle)
      [.announce, .spawn, .count 0, .receive, .send 0, .join, .receive, .receive, .receive] =
        some pingSession := rfl

theorem pingNetwork_attempts : pingNetwork.icmpAttempts =
    fun sent payload => .ok (decide (payload + 28 ≤ 1400 ∧ sent.length ≠ 1)) := by
  funext sent payload
  by_cases answered : payload + 28 ≤ 1400 ∧ sent.length ≠ 1
  · rw [TargetNetwork.icmpAttempts, decide_eq_true answered]
    exact congrArg (sendIcmpProbe 7) (congrArg EchoAttempt.heard (if_pos answered))
  · rw [TargetNetwork.icmpAttempts, decide_eq_false answered]
    exact congrArg (sendIcmpProbe 7) (congrArg EchoAttempt.heard (if_neg answered))

/-- One lost probe of a size that fits, and every larger size asked for three times. -/
theorem pingNetwork_lostTo : lostTo 1400 (binarySearchMtuIcmp pingNetwork.icmpAttempts 576 1500 2
    (probeIcmp pingNetwork.icmpAttempts 64 1 []).2).2 = 1 := by
  rw [pingNetwork_attempts]
  simp [binarySearchMtuIcmp, searchIn, probeIcmp, probeTimes, ipHeaderSize, icmpHeaderSize,
    Except.toOption, lostTo]

/-- The same host, while it answers nothing and another one answers every ping. -/
def muteNetwork : TargetNetwork :=
  { pingNetwork with icmp := fun _ _ => .heard
                       [0x45 :: List.replicate 19 0 ++ ([0, 0, 0, 0] ++ (be16 7 ++ [0, 0]))] }

def muteLimits : TestLimits := ⟨576, 9000, 2⟩

def muteResult : TestRunnerResult :=
  ((TestRunnerResult.fresh pingTarget).store .udp (muteNetwork.value muteLimits 0 .udp)).store .icmp
    (muteNetwork.value muteLimits 0 .icmp)

theorem tested_mute : Tested pingTarget muteNetwork muteLimits true muteResult :=
  @Tested.collected pingTarget muteNetwork muteLimits [.send .udp, .receive, .send .icmp, .receive]
    ⟨[], [], muteResult, 2, true⟩ rfl rfl (Or.inr rfl)

def muteSession : Session :=
  (runFrom (Session.step [pingTarget] fun _ => some muteResult) (Session.start [pingTarget] idle)
    [.announce, .spawn, .count 0, .receive, .send 0, .join, .receive, .receive, .receive]).getD
      (Session.start [] idle)

theorem muteSession_reached :
    runFrom (Session.step [pingTarget] fun _ => some muteResult) (Session.start [pingTarget] idle)
      [.announce, .spawn, .count 0, .receive, .send 0, .join, .receive, .receive, .receive] =
        some muteSession := rfl

end FragglePacket.Tui
