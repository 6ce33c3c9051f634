import FragglePacket.NetworkTests.Mtu
import FragglePacket.Text.Tokens
import Mathlib.Algebra.Order.Ring.Rat
import Mathlib.Order.Bounds.Defs

/-! The segment sizes a path lets through: what the test reports of a size limit, and
where the report is right. -/

namespace FragglePacket.NetworkTests

open FragglePacket.Framework FragglePacket.Text

/-- What the network does: whether the first address a text resolves to takes a connection at a
port's turn, and the round trip in milliseconds of the attempt at a place of the list, with its
target, port, size and timeout. -/
structure SegmentHost where
  connects : Nat → String → Bool
  segment : Nat → String → Nat → Nat → Nat → Option ℚ

/-- The result of the test, whose metrics are measurements. -/
structure SegmentationResult where
  name : String
  category : TestCategory
  target : String
  status : TestStatus
  metrics : List (String × ℚ)
  metadata : List (String × String)
  diagnoses : List Diagnosis

namespace SegmentationResult

def new (name : String) (category : TestCategory) (target : String) : SegmentationResult where
  name := name
  category := category
  target := target
  status := .running
  metrics := []
  metadata := []
  diagnoses := []

def addMetric (result : SegmentationResult) (key : String) (value : ℚ) : SegmentationResult :=
  { result with metrics := (key, value) :: result.metrics }

def addMetadata (result : SegmentationResult) (key value : String) : SegmentationResult :=
  { result with metadata := (key, value) :: result.metadata }

def addDiagnosis (result : SegmentationResult) (diagnosis : Diagnosis) : SegmentationResult :=
  { result with diagnoses := result.diagnoses ++ [diagnosis] }

def setStatus (result : SegmentationResult) (status : TestStatus) : SegmentationResult :=
  { result with status := status }

variable (result : SegmentationResult)

@[simp] theorem diagnoses_new (name : String) (category : TestCategory) (target : String) :
    (new name category target).diagnoses = [] := rfl

@[simp] theorem diagnoses_addMetric (key : String) (value : ℚ) :
    (result.addMetric key value).diagnoses = result.diagnoses := rfl

@[simp] theorem diagnoses_addMetadata (key value : String) :
    (result.addMetadata key value).diagnoses = result.diagnoses := rfl

@[simp] theorem diagnoses_addDiagnosis (diagnosis : Diagnosis) :
    (result.addDiagnosis diagnosis).diagnoses = result.diagnoses ++ [diagnosis] := rfl

@[simp] theorem diagnoses_setStatus (status : TestStatus) :
    (result.setStatus status).diagnoses = result.diagnoses := rfl

end SegmentationResult

structure TcpSegmentationTest where
  timeoutSecs : Nat
  testSizes : List Nat

def TcpSegmentationTest.new : TcpSegmentationTest where
  timeoutSecs := 5
  testSizes := [100, 536, 1024, 1460]

def TcpSegmentationTest.withTimeout (timeoutSecs : Nat) : TcpSegmentationTest :=
  { new with timeoutSecs := timeoutSecs }

def TcpSegmentationTest.withTestSizes (test : TcpSegmentationTest)
    (sizes : List Nat) : TcpSegmentationTest :=
  { test with testSizes := sizes }

/-- The text a port is tried under, which is the target itself where it names one. -/
def addrStr (target : String) (port : Nat) : String :=
  if target.toList.contains ':' then target else target ++ ":" ++ toString port

def connectedPort (host : SegmentHost) (target : String) : Option Nat :=
  [443, 80].find? fun port => host.connects port (addrStr target port)

/-- The sizes tried so far, and the result with their metrics. -/
structure SizeSweep where
  successfulSizes : List Nat
  failedSizes : List Nat
  result : SegmentationResult

def rttKey (size : Nat) : String := "size_" ++ toString size ++ "_rtt_ms"

/-- The attempt at one size, with its place in the list. -/
def testSize (host : SegmentHost) (test : TcpSegmentationTest) (target : String) (port : Nat)
    (sweep : SizeSweep) (tried : Nat × Nat) : SizeSweep :=
  match host.segment tried.2 target port tried.1 test.timeoutSecs with
  | some rttMs =>
    { sweep with
      successfulSizes := sweep.successfulSizes ++ [tried.1]
      result := sweep.result.addMetric (rttKey tried.1) rttMs }
  | none =>
    { sweep with
      failedSizes := sweep.failedSizes ++ [tried.1]
      result := sweep.result.addMetric (rttKey tried.1) (-1) }

def sweepSizes (host : SegmentHost) (test : TcpSegmentationTest) (target : String) (port : Nat)
    (result : SegmentationResult) : SizeSweep :=
  test.testSizes.zipIdx.foldl (testSize host test target port) ⟨[], [], result⟩

/-- What a diagnosis says first of the limit it found. -/
def limitText (size : Nat) : String :=
  "TCP segments larger than " ++ toString size ++ " bytes are failing."

def severeLimit (maxSuccessful clamp : Nat) : Diagnosis :=
  ((((Diagnosis.new .critical "Severe TCP Segment Size Restriction Detected"
    (limitText maxSuccessful ++
      " This indicates a firewall or middlebox is artificially limiting segment sizes.")).withRecommendation
    ("Configure TCP MSS clamping to " ++ toString clamp ++ " bytes")).withRecommendation
    "Investigate firewall rules that may be inspecting/limiting TCP segments").withRecommendation
    "Check for deep packet inspection (DPI) devices in path").withRelatedTest "MTU Tests"

def mildLimit (maxSuccessful clamp : Nat) : Diagnosis :=
  (((Diagnosis.new .warning "TCP Segment Size Restriction Detected"
    (limitText maxSuccessful ++ " Normal MSS is 1460 for 1500 MTU.")).withRecommendation
    ("Consider TCP MSS clamping to " ++ toString clamp ++ " bytes")).withRecommendation
    "Check for middleboxes or firewalls in path").withRelatedTest "MTU Tests"

/-- The diagnosis of a limit behind the largest size that got through. -/
def diagnoseLimit (result : SegmentationResult) (maxSuccessful : Nat) :
    Except MtuHalt SegmentationResult :=
  if maxSuccessful < 536 then do
    let clamp ← usizeSub maxSuccessful 40
    return result.addDiagnosis (severeLimit maxSuccessful clamp)
  else if maxSuccessful < 1460 then do
    let clamp ← usizeSub maxSuccessful 40
    return result.addDiagnosis (mildLimit maxSuccessful clamp)
  else return result

def sizesText (sizes : List Nat) : String := ", ".intercalate (sizes.map toString)

def SizeSweep.analyze (sweep : SizeSweep) : Except MtuHalt SegmentationResult :=
  let result :=
    (sweep.result.addMetadata "successful_sizes" (sizesText sweep.successfulSizes)).addMetadata
      "failed_sizes" (sizesText sweep.failedSizes)
  match sweep.successfulSizes.max?, sweep.failedSizes.min? with
  | none, _ => return (result.setStatus .failed).addMetadata "reason" "All segment sizes failed"
  | some maxSuccessful, some minFail =>
    diagnoseLimit
      (((result.setStatus .warning).addMetric "max_successful_size" maxSuccessful).addMetric
      "min_failed_size" minFail) maxSuccessful
  | some _, none =>
    return (result.setStatus .success).addMetadata
      "verdict" "No artificial TCP segment size restrictions detected"

/-- The result before the first attempt, with the commands that do the same by hand. -/
def TcpSegmentationTest.started (target : String) : SegmentationResult :=
  (((SegmentationResult.new "TCP Segmentation Detection" .tcpHealth target).addMetadata
    "cli_command"
    ("curl -so /dev/null --write-out '%\x7bsize_download\x7d' https://" ++ target)).addMetadata
      "cli_tcpdump"
    ("tcpdump -i any -c 20 'tcp and host " ++ target ++ "' -v | grep -E 'length|mss'")).addMetadata
      "cli_note"
    "Tests TCP with segment sizes: 100, 536, 1024, 1460 bytes"

def TcpSegmentationTest.run (test : TcpSegmentationTest) (host : SegmentHost) (target : String) :
    Except MtuHalt SegmentationResult :=
  let result := started target
  match connectedPort host target with
  | none =>
    return (result.setStatus .failed).addMetadata
      "error" "Could not connect to target (tried ports 443, 80)"
  | some port =>
    (sweepSizes host test target port (result.addMetadata "port" (toString port))).analyze

/-- The size stands at a place of the list, and the attempt there gets through. -/
def TcpSegmentationTest.Succeeded (test : TcpSegmentationTest) (host : SegmentHost)
    (target : String) (size : Nat) :
    Prop :=
  ∃ port ∈ connectedPort host target, ∃ place, test.testSizes[place]? = some size ∧
    (host.segment place target port size test.timeoutSecs).isSome = true

def TcpSegmentationTest.FailedAt (test : TcpSegmentationTest) (host : SegmentHost) (target : String)
    (size : Nat) : Prop :=
  ∃ port ∈ connectedPort host target, ∃ place, test.testSizes[place]? = some size ∧
    host.segment place target port size test.timeoutSecs = none

/-- The diagnosis says that segments larger than a size are failing. -/
def ReportsLimit (diagnosis : Diagnosis) (size : Nat) : Prop :=
  ∃ detail, diagnosis.description = limitText size ++ detail

theorem limitText_append (size : Nat) (rest : String) : limitText size ++ rest =
    "TCP segments larger than " ++ (toString size ++ (" bytes are failing." ++ rest)) := by
  change "TCP segments larger than " ++ toString size ++ " bytes are failing." ++ rest = _
  rw [String.append_assoc, String.append_assoc]

/-- The text names one size: the digits end where the next blank stands. -/
theorem limitText_injective {first second : Nat} {detail more : String}
    (same : limitText first ++ detail = limitText second ++ more) : first = second := by
  have opening : " bytes are failing.".toList = ' ' :: "bytes are failing.".toList := by decide
  have pieces (size : Nat) (rest : Str) : ((toString size).toList ++ ' ' :: rest).splitOn ' ' =
      Nat.toDigits 10 size :: rest.splitOn ' ' := by
    have written : (toString size).toList = Nat.toDigits 10 size := Nat.toList_repr
    rw [written]
    exact List.splitOn_append_cons_self_of_not_mem (not_mem_toDigits (by decide) size) rest
  rw [limitText_append, limitText_append, String.append_right_inj] at same
  have split := congrArg (fun text : String => text.toList.splitOn ' ') same
  simp only [String.toList_append, opening, List.cons_append, pieces] at split
  exact toDigits_injective (List.cons.inj split).1

section Sweep
variable {host : SegmentHost} {test : TcpSegmentationTest} {target : String} {port : Nat}

/-- The sizes are sorted by the outcome of their attempts, and no diagnosis is made on the way. -/
theorem foldl_testSize (tried : List (Nat × Nat)) (sweep : SizeSweep) :
    let got := fun attempt : Nat × Nat =>
      (host.segment attempt.2 target port attempt.1 test.timeoutSecs).isSome
    let swept := tried.foldl (testSize host test target port) sweep
    swept.successfulSizes = sweep.successfulSizes ++ (tried.filter got).map Prod.fst ∧
      swept.failedSizes = sweep.failedSizes ++
        (tried.filter fun attempt => !got attempt).map Prod.fst ∧
      swept.result.diagnoses = sweep.result.diagnoses := by
  intro got
  induction tried generalizing sweep with
  | nil => simp
  | cons attempt tried ih =>
    obtain ⟨succeeded, failed, diagnoses⟩ := ih (testSize host test target port sweep attempt)
    simp only [List.foldl_cons, succeeded, failed, diagnoses]
    cases outcome : host.segment attempt.2 target port attempt.1 test.timeoutSecs with
    | none =>
      have lost : got attempt = false := by simp [got, outcome]
      simp [testSize, outcome, lost]
    | some rttMs =>
      have through : got attempt = true := by simp [got, outcome]
      simp [testSize, outcome, through]

variable (connected : connectedPort host target = some port) (result : SegmentationResult)
  {size : Nat}
include connected

theorem mem_successfulSizes :
    size ∈ (sweepSizes host test target port result).successfulSizes ↔
      test.Succeeded host target size := by
  rw [sweepSizes, (foldl_testSize _ _).1]
  simp only [TcpSegmentationTest.Succeeded, connected, List.nil_append, List.mem_map,
    List.mem_filter, Prod.exists, List.mem_zipIdx_iff_getElem?]
  simp

theorem mem_failedSizes :
    size ∈ (sweepSizes host test target port result).failedSizes ↔
      test.FailedAt host target size := by
  rw [sweepSizes, (foldl_testSize _ _).2.1]
  simp only [TcpSegmentationTest.FailedAt, connected, List.nil_append, List.mem_map,
    List.mem_filter, Prod.exists, List.mem_zipIdx_iff_getElem?]
  simp

omit connected in
theorem diagnoses_sweepSizes :
    (sweepSizes host test target port result).result.diagnoses = result.diagnoses :=
  (foldl_testSize _ _).2.2

end Sweep

/-- Only a limit below the usual size is diagnosed, and only where the clamp can be computed. -/
theorem diagnoseLimit_cases (result : SegmentationResult) (maxSuccessful : Nat) :
    (maxSuccessful < 40 ∧ diagnoseLimit result maxSuccessful = .error .overflow) ∨
    (40 ≤ maxSuccessful ∧ maxSuccessful < 1460 ∧ ∃ diagnosis,
      (∀ size, ReportsLimit diagnosis size ↔ size = maxSuccessful) ∧
      diagnoseLimit result maxSuccessful = .ok (result.addDiagnosis diagnosis)) ∨
    (1460 ≤ maxSuccessful ∧ diagnoseLimit result maxSuccessful = .ok result) := by
  have reports (diagnosis : Diagnosis) (detail : String)
      (said : diagnosis.description = limitText maxSuccessful ++ detail) (size : Nat) :
      ReportsLimit diagnosis size ↔ size = maxSuccessful := by
    refine ⟨fun ⟨more, same⟩ => (limitText_injective (said.symm.trans same)).symm,
      fun same => ⟨detail, ?_⟩⟩
    rw [same, said]
  by_cases small : maxSuccessful < 40
  · have severe : maxSuccessful < 536 := by omega
    have panics : usizeSub maxSuccessful 40 = .error .overflow := if_neg (Nat.not_le.mpr small)
    exact .inl ⟨small, by rw [diagnoseLimit, if_pos severe, panics]; rfl⟩
  · have clamp : usizeSub maxSuccessful 40 = .ok (maxSuccessful - 40) :=
      if_pos (Nat.not_lt.mp small)
    by_cases severe : maxSuccessful < 536
    · refine .inr
        (.inl ⟨Nat.not_lt.mp small, by omega, severeLimit maxSuccessful (maxSuccessful - 40),
        reports _ _ rfl, ?_⟩)
      rw [diagnoseLimit, if_pos severe, clamp]
      rfl
    · by_cases mild : maxSuccessful < 1460
      · refine .inr (.inl ⟨Nat.not_lt.mp small, mild, mildLimit maxSuccessful (maxSuccessful - 40),
          reports _ _ rfl, ?_⟩)
        rw [diagnoseLimit, if_neg severe, if_pos mild, clamp]
        rfl
      · exact .inr
          (.inr ⟨Nat.not_lt.mp mild, by rw [diagnoseLimit, if_neg severe, if_neg mild]; rfl⟩)


/-- An analysis comes to an end and reports only limits of a kind exactly where the largest size is
one, if a limit below the usual size shows at all. -/
theorem analyze_reports_iff {sweep : SizeSweep} (quiet : sweep.result.diagnoses = [])
    (Good : Nat → Prop) :
    (∃ result, sweep.analyze = .ok result ∧
      ∀ diagnosis ∈ result.diagnoses, ∀ size, ReportsLimit diagnosis size → Good size) ↔
      ∀ most, IsGreatest {size | size ∈ sweep.successfulSizes} most → sweep.failedSizes ≠ [] →
        most < 1460 → 40 ≤ most ∧ Good most := by
  have silent {result : SegmentationResult} (none : result.diagnoses = []) :
      ∃ reported, (Except.ok result : Except MtuHalt SegmentationResult) = .ok reported ∧
        ∀ diagnosis ∈ reported.diagnoses, ∀ size, ReportsLimit diagnosis size → Good size :=
    ⟨result, rfl, fun _ member => by simp [none] at member⟩
  cases largest : sweep.successfulSizes.max? with
  | none =>
    have nothing : sweep.successfulSizes = [] := List.max?_eq_none_iff.mp largest
    refine iff_of_true ?_ fun most greatest => absurd greatest.1 (by simp [nothing])
    rw [SizeSweep.analyze, largest]
    exact silent (by simp [quiet])
  | some most =>
    have greatest : IsGreatest {size | size ∈ sweep.successfulSizes} most :=
      List.max?_eq_some_iff.mp largest
    have unique {other : Nat}
        (found : IsGreatest {size | size ∈ sweep.successfulSizes} other) : other = most :=
      found.unique greatest
    cases smallest : sweep.failedSizes.min? with
    | none =>
      have nothing : sweep.failedSizes = [] := List.min?_eq_none_iff.mp smallest
      refine iff_of_true ?_ fun _ _ some => absurd nothing some
      rw [SizeSweep.analyze, largest, smallest]
      exact silent (by simp [quiet])
    | some minFail =>
      have some : sweep.failedSizes ≠ [] := fun nothing => by simp [nothing] at smallest
      simp only [SizeSweep.analyze, largest, smallest]
      rcases diagnoseLimit_cases _ most with ⟨small, panics⟩ |
        ⟨room, below, limit, reports, found⟩ | ⟨usual, found⟩
      · refine iff_of_false (fun ⟨_, found, _⟩ => ?_) fun all => ?_
        · rw [panics] at found
          cases found
        · exact absurd (all most greatest some (by omega)).1 (Nat.not_le.mpr small)
      · simp only [found, Except.ok.injEq, exists_eq_left',
          SegmentationResult.diagnoses_addDiagnosis, SegmentationResult.diagnoses_addMetric,
          SegmentationResult.diagnoses_setStatus, SegmentationResult.diagnoses_addMetadata, quiet,
          List.nil_append, List.forall_mem_singleton, reports, forall_eq]
        refine ⟨fun good other known _ _ => ?_, fun all => (all most greatest some below).2⟩
        rw [unique known]
        exact ⟨room, good⟩
      · refine iff_of_true ?_ fun other known _ below => ?_
        · rw [found]
          exact silent (by simp [quiet])
        · rw [unique known] at below
          omega

/-- A size is the limit: some larger size failed, and none got through. -/
def TcpSegmentationTest.Limit (test : TcpSegmentationTest) (host : SegmentHost) (target : String)
    (size : Nat) : Prop :=
  (∃ larger, size < larger ∧ test.FailedAt host target larger) ∧
    ∀ larger, size < larger → ¬ test.Succeeded host target larger

theorem sweep_reports_iff {host : SegmentHost} {test : TcpSegmentationTest} {target : String}
    {port : Nat} (connected : connectedPort host target = some port) {result : SegmentationResult}
    (quiet : result.diagnoses = []) :
    (∃ analyzed, (sweepSizes host test target port result).analyze = .ok analyzed ∧
      ∀ diagnosis ∈ analyzed.diagnoses, ∀ size, ReportsLimit diagnosis size →
        test.Limit host target size) ↔
      ∀ most, IsGreatest {size | test.Succeeded host target size} most →
        (∃ size, test.FailedAt host target size) →
        most < 1460 → 40 ≤ most ∧ ∃ larger, most < larger ∧ test.FailedAt host target larger := by
  have reports := @analyze_reports_iff (sweepSizes host test target port result)
    ((diagnoses_sweepSizes result).trans quiet) (test.Limit host target)
  have failing : (sweepSizes host test target port result).failedSizes ≠ [] ↔
      ∃ size, test.FailedAt host target size := by
    refine ⟨fun nonempty => ?_, fun ⟨size, failed⟩ => List.ne_nil_of_mem
      ((mem_failedSizes connected _).mpr failed)⟩
    obtain ⟨size, member⟩ := List.exists_mem_of_ne_nil _ nonempty
    exact ⟨size, (mem_failedSizes connected _).mp member⟩
  simp only [mem_successfulSizes connected, failing] at reports
  refine reports.trans (forall_congr' fun most => forall_congr' fun greatest => ?_)
  have beyond : ∀ larger, most < larger → ¬ test.Succeeded host target larger :=
    fun larger above through =>
      absurd (greatest.2 through) (Nat.not_le.mpr above)
  exact imp_congr_right fun _ => imp_congr_right fun _ => and_congr_right fun _ =>
    and_iff_left beyond

/-- The test ends and reports only limits exactly where the largest size that got
through, if some size failed and this one is below the usual, leaves room for the
headers and some larger size failed. -/
theorem run_limits_iff (test : TcpSegmentationTest) (host : SegmentHost) (target : String) :
    (∃ result, test.run host target = .ok result ∧
      ∀ diagnosis ∈ result.diagnoses, ∀ size, ReportsLimit diagnosis size →
        test.Limit host target size) ↔
      ∀ most, IsGreatest {size | test.Succeeded host target size} most →
        (∃ size, test.FailedAt host target size) →
        most < 1460 → 40 ≤ most ∧ ∃ larger, most < larger ∧ test.FailedAt host target larger := by
  cases connected : connectedPort host target with
  | none =>
    refine iff_of_true ?_ fun most greatest => ?_
    · simp only [TcpSegmentationTest.run, connected]
      exact ⟨_, rfl, fun _ member => absurd member List.not_mem_nil⟩
    · obtain ⟨⟨port, found, _⟩, _⟩ := greatest
      rw [connected] at found
      cases found
  | some port =>
    simp only [TcpSegmentationTest.run, connected]
    exact sweep_reports_iff connected rfl

/-- A path that takes 500 bytes, and one that loses an attempt with 200 bytes but takes 400. -/
def narrowHost (lost : Nat → Bool) : SegmentHost where
  connects _ _ := true
  segment _ _ _ size _ := if lost size then none else some 3

/-- The clamp of a very small size cannot be computed, and a size is reported
behind which nothing failed. -/
theorem limits_misreported :
    (TcpSegmentationTest.new.withTestSizes [20, 1000]).run (narrowHost fun size => 500 < size)
      "192.0.2.1" =
      .error .overflow ∧
    ∃ result, (TcpSegmentationTest.new.withTestSizes [200, 400]).run
      (narrowHost fun size => size < 400) "192.0.2.1" =
      .ok result ∧ ∃ diagnosis ∈ result.diagnoses, ReportsLimit diagnosis 400 ∧
        ¬ (TcpSegmentationTest.new.withTestSizes [200, 400]).Limit
          (narrowHost fun size => size < 400) "192.0.2.1" 400 := by
  refine ⟨rfl, _, rfl, severeLimit 400 360, List.mem_singleton.mpr rfl, ⟨_, rfl⟩, ?_⟩
  rintro ⟨⟨larger, above, port, _, place, _, lost⟩, _⟩
  have small : larger < 400 := by simpa [narrowHost] using lost
  omega

end FragglePacket.NetworkTests
