import FragglePacket.Framework.Result
import FragglePacket.Search.Loop

/-! MTU discovery by `ping`: the test on Linux, and that its loop is a bisection. -/

namespace FragglePacket.NetworkTests

open FragglePacket.Framework FragglePacket.Search

structure IcmpMtuTest where
  minMtu : Nat
  maxMtu : Nat
  timeoutMs : Nat

def IcmpMtuTest.new : IcmpMtuTest where
  minMtu := 576
  maxMtu := 1500
  timeoutMs := 2000

def IcmpMtuTest.withRange (test : IcmpMtuTest) (min max : Nat) : IcmpMtuTest :=
  { test with minMtu := min, maxMtu := max }

/-- The command line of one `ping` with the don't-fragment bit. -/
structure PingCommand where
  count : Nat
  packetSize : Nat
  waitSeconds : Nat
  target : String

/-- How the test ends early: `ping` could not be run, or `usize` arithmetic left its
range, which panics in a debug build and wraps in a release build. -/
inductive MtuHalt where
  | error (message : String)
  | overflow

def usizeAdd (first second : Nat) : Except MtuHalt Nat :=
  if first + second < 2 ^ 64 then .ok (first + second) else .error .overflow

def usizeSub (first second : Nat) : Except MtuHalt Nat :=
  if second ≤ first then .ok (first - second) else .error .overflow

/-- The search between rounds, with the sizes tried so far. -/
structure MtuState where
  low : Nat
  high : Nat
  discoveredMtu : Option Nat
  tried : List Nat

/-- One round of the search. `ping` runs a command as the given round and says whether
it succeeded. -/
def IcmpMtuTest.round (test : IcmpMtuTest) (ping : Nat → PingCommand → Except String Bool)
    (target : String) (state : MtuState) : Except MtuHalt MtuState := do
  let sum ← usizeAdd state.low state.high
  let mid := sum / 2
  let packetSize ← usizeSub mid 28
  let success ← (ping state.tried.length {
    count := 3
    packetSize := packetSize
    waitSeconds := test.timeoutMs / 1000
    target := target }).mapError .error
  if success then
    let low ← usizeAdd mid 1
    return ⟨low, state.high, some mid, state.tried ++ [mid]⟩
  else
    let high ← usizeSub mid 1
    return ⟨state.low, high, state.discoveredMtu, state.tried ++ [mid]⟩

/-- The report on what the search discovered. -/
def reportMtu (result : TestResult) : Option Nat → TestResult
  | some mtu =>
    let found :=
      ((result.addMetric "mtu" mtu).addMetadata "method" "ICMP binary search").setStatus .success
    let reduced :=
      if mtu < 1500 then
        found.addDiagnosis (((Diagnosis.new .info "Reduced MTU Detected"
          ("Path MTU is " ++ toString mtu ++ " (standard is 1500)")).withRecommendation
          "This may indicate tunneling or encapsulation in path").withRelatedTest "Path Analysis")
      else found
    if mtu < 1280 then
      reduced.addDiagnosis ((Diagnosis.new .warning "Low MTU"
        ("MTU " ++ toString mtu ++ " is below IPv6 minimum (1280)")).withRecommendation
        "May cause IPv6 connectivity issues")
    else reduced
  | none => (result.setStatus .failed).addMetadata "error" "Could not discover MTU"

/-- The report before anything is measured. -/
def mtuReport (target : String) : TestResult :=
  ((TestResult.new "ICMP MTU Discovery" .mtu target).addMetadata "cli_command"
    ("ping -c 3 -M do -s 1472 " ++ target)).addMetadata "cli_note"
    "Binary search from 576-1500 bytes with DF bit set"

/-- The test on Linux; `none` when its loop is still running after `fuel` rounds. -/
def IcmpMtuTest.run (test : IcmpMtuTest) (ping : Nat → PingCommand → Except String Bool)
    (target : String) (fuel : Nat) : Option (Except MtuHalt TestResult) :=
  (loopWhile (fun state => state.low ≤ state.high) (test.round ping target) fuel
    ⟨test.minMtu, test.maxMtu, none, []⟩).map
    (·.map fun state => reportMtu (mtuReport target) state.discoveredMtu)

/-- A path on which `ping` succeeds exactly when its IPv4 packet, 28 bytes more than
the packet size it is given, takes at most `threshold` bytes. -/
def ThresholdPing (ping : Nat → PingCommand → Except String Bool) (threshold : Nat) : Prop :=
  ∀ round command, ping round command = .ok (decide (command.packetSize + 28 ≤ threshold))

def MtuState.bracket (state : MtuState) : Bracket where
  lo := state.low
  hi := state.high
  best := state.discoveredMtu
  asked := state.tried

/-- What a round gets to know about a size; below 28 the subtraction of the headers
underflows. -/
def pingAnswer (threshold size : Nat) : Option Bool :=
  if size < 28 then none else some (decide (size ≤ threshold))

/-- 16-bit bounds, and no size tried that the headers do not leave room for. -/
structure MtuState.Bounded (state : MtuState) : Prop where
  high : state.high ≤ 65535
  tried : ∀ size ∈ state.tried, 28 ≤ size

section Run
variable {test : IcmpMtuTest} {ping : Nat → PingCommand → Except String Bool} {target : String}
  {threshold : Nat}

theorem usizeAdd_ok {first second : Nat} (small : first + second < 2 ^ 64) :
    usizeAdd first second = .ok (first + second) :=
  if_pos small

theorem usizeSub_ok {first second : Nat} (order : second ≤ first) :
    usizeSub first second = .ok (first - second) :=
  if_pos order

theorem usizeSub_overflow {first second : Nat} (order : first < second) :
    usizeSub first second = .error .overflow :=
  if_neg (Nat.not_le.mpr order)

theorem MtuState.mid_eq {state : MtuState} (opened : state.low ≤ state.high) :
    (state.low + state.high) / 2 = state.bracket.mid := by
  simp only [Bracket.mid, MtuState.bracket]
  omega

private theorem tried_snoc {tried : List Nat} (earlier : ∀ size ∈ tried, 28 ≤ size) {size : Nat}
    (room : 28 ≤ size) : ∀ other ∈ tried ++ [size], 28 ≤ other := by
  intro other member
  rcases List.mem_append.mp member with before | here
  · exact earlier other before
  · rwa [List.mem_singleton.mp here]

/-- A round that goes on takes one step of the bisection; a round that stops ends it. -/
theorem IcmpMtuTest.round_cases (path : ThresholdPing ping threshold) {state : MtuState}
    (bounded : state.Bounded) (opened : state.low ≤ state.high) :
    ((∃ halt, test.round ping target state = .error halt) ∧
        state.bracket.step (pingAnswer threshold) = none) ∨
      ∃ next, test.round ping target state = .ok next ∧ next.Bounded ∧
        state.bracket.step (pingAnswer threshold) = some next.bracket := by
  obtain ⟨small, earlier⟩ := bounded
  have sum := usizeAdd_ok (show state.low + state.high < 2 ^ 64 by omega)
  have mid := state.mid_eq opened
  have bound : state.bracket.mid ≤ 65535 := Nat.le_trans (Bracket.mid_bounds opened).2 small
  by_cases low : state.bracket.mid < 28
  · refine .inl ⟨⟨.overflow, ?_⟩, Bracket.step_unanswered (if_pos low)⟩
    simp only [IcmpMtuTest.round, sum, mid, usizeSub_overflow low, bind, Except.bind]
  · have room := Nat.not_lt.mp low
    have header : state.bracket.mid - 28 + 28 = state.bracket.mid := Nat.sub_add_cancel room
    have answer : pingAnswer threshold state.bracket.mid =
        some (decide (state.bracket.mid ≤ threshold)) :=
      if_neg low
    right
    by_cases admitted : state.bracket.mid ≤ threshold
    · simp only [admitted, decide_true] at answer
      refine ⟨⟨state.bracket.mid + 1, state.high, some state.bracket.mid,
        state.tried ++ [state.bracket.mid]⟩, ?_, ⟨small, tried_snoc earlier room⟩,
        Bracket.step_admitted answer⟩
      simp [IcmpMtuTest.round, sum, mid, usizeSub_ok room, path _ _, header, admitted,
        usizeAdd_ok (show state.bracket.mid + 1 < 2 ^ 64 by omega), bind, pure, Except.bind,
          Except.pure,
        Except.mapError]
    · simp only [admitted, decide_false] at answer
      have positive : state.bracket.mid ≠ 0 := by omega
      refine ⟨⟨state.low, state.bracket.mid - 1, state.discoveredMtu,
        state.tried ++ [state.bracket.mid]⟩, ?_,
        ⟨Nat.le_trans (Nat.sub_le _ _) bound, tried_snoc earlier room⟩, ?_⟩
      · simp [IcmpMtuTest.round, sum, mid, usizeSub_ok room, path _ _, header, admitted,
          usizeSub_ok (Nat.one_le_iff_ne_zero.mpr positive), bind, pure, Except.bind, Except.pure,
          Except.mapError]
      · rw [Bracket.step_rejected answer, if_neg positive]
        rfl

/-- The search over a threshold path is a bisection. -/
theorem IcmpMtuTest.bisects (test : IcmpMtuTest) (target : String)
    (path : ThresholdPing ping threshold) :
    Bisects (fun state => decide (state.low ≤ state.high)) (test.round ping target)
      (pingAnswer threshold)
      MtuState.bracket MtuState.Bounded where
  guard _ := decide_eq_true_iff
  rounds _ bounded opened := IcmpMtuTest.round_cases path bounded opened

theorem reportMtu_metric (result : TestResult) (fresh : result.metric "mtu" = none)
    (discovered : Option Nat) :
    (reportMtu result discovered).metric "mtu" = discovered := by
  cases discovered with
  | none => simp [reportMtu, fresh]
  | some mtu =>
    simp only [reportMtu]
    split <;> split <;> simp

/-- The test returns the largest size the path lets through. -/
def IcmpMtuTest.FindsMtu (test : IcmpMtuTest) (ping : Nat → PingCommand → Except String Bool)
    (target : String) (threshold : Nat) : Prop :=
  ∃ rounds result, (∀ spare, test.run ping target (rounds + spare) = some (.ok result)) ∧
    result.metric "mtu" = lastAdmitted threshold test.minMtu test.maxMtu

theorem IcmpMtuTest.run_eq_some {fuel : Nat} {result : TestResult} :
    test.run ping target fuel = some (.ok result) ↔
      ∃ final, loopWhile (fun state => decide (state.low ≤ state.high))
        (test.round ping target) fuel
        ⟨test.minMtu, test.maxMtu, none, []⟩ = some (.ok final) ∧
        reportMtu (mtuReport target) final.discoveredMtu = result := by
  rw [IcmpMtuTest.run, map_eq_ok_iff]

/-- Over 16-bit sizes, the test fails exactly when it asks a size below the headers. -/
theorem IcmpMtuTest.findsMtu_iff (path : ThresholdPing ping threshold) (small : test.maxMtu ≤ 65535)
    (ordered : test.minMtu ≤ test.maxMtu) :
    test.FindsMtu ping target threshold ↔ StaysAbove 28 threshold test.minMtu test.maxMtu := by
  have answers : ∀ m, 28 ≤ m → m ≤ test.maxMtu →
      pingAnswer threshold m = some (decide (m ≤ threshold)) :=
    fun m room _ => if_neg (Nat.not_lt.mpr room)
  have refuses : ∀ m, m ≤ test.maxMtu → test.maxMtu < m → pingAnswer threshold m = none :=
    fun m within beyond => absurd within (Nat.not_le.mpr beyond)
  have never : StaysBelow test.maxMtu threshold test.minMtu test.maxMtu := .inl (Nat.le_refl _)
  have returns := (test.bisects target path).returns_iff answers refuses ordered
    ⟨test.minMtu, test.maxMtu, none, []⟩ ⟨small, by simp⟩ rfl
  constructor
  · intro ⟨rounds, result, returned, metric⟩
    obtain ⟨final, run, rfl⟩ := IcmpMtuTest.run_eq_some.mp (returned 0)
    obtain ⟨_, bounded⟩ := (test.bisects target path).sound run ⟨small, by simp⟩
    rw [reportMtu_metric _ rfl] at metric
    exact (returns.mp ⟨_, final, run, bounded, bounded.tried, metric⟩).1
  · intro above
    obtain ⟨fuel, final, run, _, _, best⟩ := returns.mpr ⟨above, never⟩
    refine ⟨fuel, reportMtu (mtuReport target) final.discoveredMtu, fun spare => ?_, ?_⟩
    · exact IcmpMtuTest.run_eq_some.mpr ⟨final, loopWhile_spare run spare, rfl⟩
    · rw [reportMtu_metric _ rfl]
      exact best

end Run

end FragglePacket.NetworkTests
