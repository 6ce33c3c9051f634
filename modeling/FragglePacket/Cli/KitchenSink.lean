import FragglePacket.Lists.SortByKey
import FragglePacket.NetworkTests.Coverage
import FragglePacket.Probe.MtuSearch

/-! The path MTU verdict on a list of targets. -/

namespace FragglePacket.Cli

open FragglePacket.Lists FragglePacket.Text FragglePacket.NetworkTests FragglePacket.Probe

structure Target where
  target : String
  desc : String
  port : UInt16

/-- What the network answers to the probes of one target. -/
structure Answers where
  resolves : Bool
  echoes : Bool
  icmpMtu : Nat
  udpMtu : Option Nat
  tcpMtu : Option Nat
  tcpMss : Option Nat
  quicMtu : Option Nat

structure MtuTestResult where
  target : String
  desc : String
  icmpMtu : Option Nat
  tcpMtu : Option Nat
  udpMtu : Option Nat
  tcpMss : Option Nat
  quicMtu : Option Nat
  icmpApplicable : Bool
  tcpApplicable : Bool
  udpApplicable : Bool
  quicApplicable : Bool

/-- A target without a port is a name server, which is probed over UDP. -/
def testTarget (target : Target) (answers : Answers) : MtuTestResult where
  target := target.target
  desc := target.desc
  icmpMtu := if answers.resolves && answers.echoes then some answers.icmpMtu else none
  tcpMtu := if 0 < target.port then answers.tcpMtu else none
  udpMtu := if answers.resolves && target.port == 0 then answers.udpMtu else none
  tcpMss := if 0 < target.port then answers.tcpMss else none
  quicMtu := if target.port == 443 then answers.quicMtu else none
  icmpApplicable := answers.resolves
  tcpApplicable := 0 < target.port
  udpApplicable := answers.resolves && target.port == 0
  quicApplicable := target.port == 443

namespace MtuTestResult

def anyApplicable (r : MtuTestResult) : Bool :=
  r.icmpApplicable || r.tcpApplicable || r.udpApplicable || r.quicApplicable

def anyMeasured (r : MtuTestResult) : Bool :=
  r.icmpMtu.isSome || r.tcpMtu.isSome || r.udpMtu.isSome || r.quicMtu.isSome

/-- A target counts once, whichever of its probes returned a value. -/
def outcome (r : MtuTestResult) : Option MissReason :=
  if r.anyMeasured then none else if r.anyApplicable then some .noAnswer else some .notAttempted

def mtus (r : MtuTestResult) : List (String × String × Nat) :=
  (r.icmpMtu.map fun m => (r.desc, "ICMP", m)).toList ++
    (r.tcpMtu.map fun m => (r.desc, "TCP", m)).toList ++
    (r.udpMtu.map fun m => (r.desc, "UDP", m)).toList ++
      (r.quicMtu.map fun m => (r.desc, "QUIC", m)).toList

end MtuTestResult

def coverageOf (results : List MtuTestResult) : Coverage :=
  Coverage.recordAll (results.map (·.outcome))

def allMtus (results : List MtuTestResult) : List (String × String × Nat) :=
  results.flatMap (·.mtus)

def mtuValues (results : List MtuTestResult) : List Nat :=
  sortByKey id ((allMtus results).map (·.2.2))

def medianMtu (values : List Nat) : Nat := values[values.length / 2]?.getD 0

def minMtuFound (values : List Nat) : Nat := values.head?.getD 0

def maxMtuFound (values : List Nat) : Nat := values.getLast?.getD 0

def pctOk (values : List Nat) : ℚ := values.countP (1500 ≤ ·) / (max values.length 1 : Nat) * 100

/-- A difference of two `usize`, as a release build has it. -/
def wrappingSub (first second : Nat) : Nat := (first + 2 ^ 64 - second) % 2 ^ 64

/-- What is printed in the end, with the numbers it names. -/
inductive Conclusion where
  | noChangesNeeded (pct : Nat)
  | mostlyOk (pct : Nat)
  | review (median lowest mssClamp : Nat)
  | actionNeeded (median mssClamp : Nat) (limiters : List (String × String × Nat))
deriving DecidableEq

def concludeFrom (mtus : List (String × String × Nat)) (values : List Nat) : Conclusion :=
  let median := medianMtu values
  if 95 ≤ pctOk values ∧ 1400 ≤ minMtuFound values then .noChangesNeeded ⌊pctOk values⌋₊
  else if 80 ≤ pctOk values ∧ 1400 ≤ median then .mostlyOk ⌊pctOk values⌋₊
  else if 1400 ≤ median then .review median (minMtuFound values) (wrappingSub median 40)
  else .actionNeeded median (wrappingSub median 40)
    ((mtus.filter fun entry => entry.2.2 < 1400).take 5)

/-- Nothing is concluded where nothing was measured, or of too few targets. -/
def conclude (results : List MtuTestResult) : Option Conclusion :=
  if (allMtus results).isEmpty then none
  else if (classifyCoverage (coverageOf results)
    (.finite defaultRequiredCoverage)).supportsConclusion then
    some (concludeFrom (allMtus results) (mtuValues results))
  else none

structure ReportSummary where
  totalTargets : Nat
  successfulTests : Nat
  medianMtu : Nat
  minMtu : Nat
  maxMtu : Nat
  percentAt1500 : ℚ

structure TargetResult where
  target : String
  description : String
  icmpMtu : Option Nat
  tcpMtu : Option Nat
  udpMtu : Option Nat
  quicMtu : Option Nat
  tcpMss : Option Nat

structure Verdict where
  status : String
  recommendedMtu : Option Nat
  recommendedMss : Option Nat
deriving DecidableEq

structure MtuReport where
  summary : ReportSummary
  targets : List TargetResult
  verdict : Verdict

def reportVerdict (values : List Nat) : Verdict :=
  let median := medianMtu values
  if 95 ≤ pctOk values ∧ 1400 ≤ values.head?.getD 0 then ⟨"PASS", none, none⟩
  else if 80 ≤ pctOk values ∧ 1400 ≤ median then ⟨"PASS", none, none⟩
  else if 1400 ≤ median then ⟨"REVIEW", some median, some (wrappingSub median 40)⟩
  else ⟨"ACTION_NEEDED", some median, some (wrappingSub median 40)⟩

/-- The report that is written after a conclusion, when one is asked for. -/
def report (results : List MtuTestResult) (jsonOutput : Bool)
    (outputFile : Option String) : Option MtuReport :=
  (conclude results).bind fun _ =>
    if jsonOutput || outputFile.isSome then
      let values := mtuValues results
      some
        { summary := ⟨results.length, (allMtus results).length, medianMtu values,
            minMtuFound values, maxMtuFound values, pctOk values⟩
          targets := results.map fun r =>
            ⟨r.target, r.desc, r.icmpMtu, r.tcpMtu, r.udpMtu, r.quicMtu, r.tcpMss⟩
          verdict := reportVerdict values }
    else none

namespace Conclusion

def verdict : Conclusion → Verdict
  | noChangesNeeded _ => ⟨"PASS", none, none⟩
  | mostlyOk _ => ⟨"PASS", none, none⟩
  | review median _ mssClamp => ⟨"REVIEW", some median, some mssClamp⟩
  | actionNeeded median mssClamp _ => ⟨"ACTION_NEEDED", some median, some mssClamp⟩

end Conclusion

/-- The report repeats what was printed. -/
theorem reportVerdict_eq (mtus : List (String × String × Nat)) (values : List Nat) :
    reportVerdict values = (concludeFrom mtus values).verdict := by
  by_cases clean : 95 ≤ pctOk values ∧ 1400 ≤ minMtuFound values
  · have printed : concludeFrom mtus values = .noChangesNeeded _ := if_pos clean
    rw [printed]
    exact if_pos clean
  · by_cases mostly : 80 ≤ pctOk values ∧ 1400 ≤ medianMtu values
    · have printed : concludeFrom mtus values = .mostlyOk _ := (if_neg clean).trans (if_pos mostly)
      rw [printed]
      exact (if_neg clean).trans (if_pos mostly)
    · by_cases central : 1400 ≤ medianMtu values
      · have printed : concludeFrom mtus values = .review _ _ _ :=
          (if_neg clean).trans ((if_neg mostly).trans (if_pos central))
        rw [printed]
        exact (if_neg clean).trans ((if_neg mostly).trans (if_pos central))
      · have printed : concludeFrom mtus values = .actionNeeded _ _ _ :=
          (if_neg clean).trans ((if_neg mostly).trans (if_neg central))
        rw [printed]
        exact (if_neg clean).trans ((if_neg mostly).trans (if_neg central))

/-- At least this share of the targets has an answer. -/
def Covered (results : List MtuTestResult) : Prop :=
  results.any (·.anyMeasured) ∧
    defaultRequiredCoverage ≤ results.countP (·.anyMeasured) / results.length + f64Epsilon

section Coverage
variable {results : List MtuTestResult}

theorem outcome_eq_none_iff (r : MtuTestResult) : r.outcome = none ↔ r.anyMeasured = true := by
  rw [MtuTestResult.outcome]
  split
  case isTrue measured => simp [measured]
  case isFalse missed =>
    refine iff_of_false ?_ missed
    split
    · exact Option.some_ne_none _
    · exact Option.some_ne_none _

theorem coverageOf_measured : (coverageOf results).measured = results.countP (·.anyMeasured) := by
  rw [coverageOf, Coverage.recordAll_counts.measured, List.count, List.countP_map]
  refine List.countP_congr fun r _ => ?_
  simpa using outcome_eq_none_iff r

theorem coverageOf_attempted : (coverageOf results).attempted = results.length := by
  rw [coverageOf, Coverage.recordAll_counts.attempted, List.length_map]

theorem requiredShare_default :
    requiredShare (.finite defaultRequiredCoverage) = defaultRequiredCoverage := by
  norm_num [requiredShare, defaultRequiredCoverage]

theorem mtus_eq_nil_iff (r : MtuTestResult) : r.mtus = [] ↔ r.anyMeasured = false := by
  simp [MtuTestResult.mtus, MtuTestResult.anyMeasured, and_assoc]

theorem allMtus_eq_nil_iff : allMtus results = [] ↔ results.any (·.anyMeasured) = false := by
  rw [allMtus, List.flatMap_eq_nil_iff, List.any_eq_false]
  refine forall₂_congr fun r _ => ?_
  rw [mtus_eq_nil_iff, Bool.not_eq_true]

/-- When the run concludes, and what. -/
theorem conclude_eq_some_iff {conclusion : Conclusion} :
    conclude results = some conclusion ↔
      Covered results ∧ concludeFrom (allMtus results) (mtuValues results) = conclusion := by
  have supported : (classifyCoverage (coverageOf results)
      (.finite defaultRequiredCoverage)).supportsConclusion = true ↔
      Covered results := by
    rw [supportsConclusion_iff, coverageOf_measured, coverageOf_attempted, requiredShare_default,
      Covered, List.countP_pos_iff, List.any_eq_true]
    constructor
    · rintro ⟨answered, -, share⟩
      exact ⟨answered, share⟩
    · rintro ⟨⟨r, listed, measured⟩, share⟩
      exact ⟨⟨r, listed, measured⟩, List.length_pos_of_mem listed, share⟩
  by_cases empty : (allMtus results).isEmpty = true
  · rw [conclude, if_pos empty]
    refine iff_of_false (Option.some_ne_none _).symm ?_
    rintro ⟨covered, -⟩
    have none := allMtus_eq_nil_iff.mp (List.isEmpty_iff.mp empty)
    rw [covered.1] at none
    cases none
  · rw [conclude, if_neg empty]
    by_cases covered : Covered results
    · rw [if_pos (supported.mpr covered), Option.some_inj, and_iff_right covered]
    · rw [if_neg (mt supported.mp covered)]
      exact iff_of_false (Option.some_ne_none _).symm fun both => covered both.1

theorem allMtus_filter {kept : MtuTestResult → Bool}
    (answered : ∀ r ∈ results, r.anyMeasured = true → kept r = true) :
    allMtus (results.filter kept) = allMtus results := by
  induction results with
  | nil => rfl
  | cons r rest ih =>
    obtain ⟨here, later⟩ := List.forall_mem_cons.mp answered
    by_cases stays : kept r = true
    · rw [List.filter_cons_of_pos stays]
      exact congrArg (r.mtus ++ ·) (ih later)
    · have silent : r.mtus = [] := (mtus_eq_nil_iff r).mpr (by simpa using mt here stays)
      have whole : allMtus (r :: rest) = r.mtus ++ allMtus rest := rfl
      rw [List.filter_cons_of_neg stays, whole, silent, ih later]
      rfl

end Coverage

/-- Targets that did not answer never bring about a conclusion and never alter one: without
them, it is the same. -/
theorem conclude_without_silent {results : List MtuTestResult} {kept : MtuTestResult → Bool}
    {conclusion : Conclusion} (answered : ∀ r ∈ results, r.anyMeasured = true → kept r = true)
    (concluded : conclude results = some conclusion) :
    conclude (results.filter kept) = some conclusion := by
  obtain ⟨⟨measured, share⟩, found⟩ := conclude_eq_some_iff.mp concluded
  have sameMtus : allMtus (results.filter kept) = allMtus results := allMtus_filter answered
  have sameMeasured : (results.filter kept).countP (·.anyMeasured) =
      results.countP (·.anyMeasured) := by
    rw [List.countP_filter]
    refine List.countP_congr fun r listed => ?_
    simpa using answered r listed
  have stillSome : (results.filter kept).any (·.anyMeasured) = true := by
    by_contra missing
    have none := allMtus_eq_nil_iff.mpr (Bool.not_eq_true _ ▸ missing)
    rw [sameMtus] at none
    rw [allMtus_eq_nil_iff.mp none] at measured
    cases measured
  refine conclude_eq_some_iff.mpr ⟨⟨stillSome, share.trans ?_⟩, ?_⟩
  · obtain ⟨r, listed, -⟩ := List.any_eq_true.mp stillSome
    have fewer : (results.filter kept).length ≤ results.length := List.length_filter_le kept results
    have ratio : (results.countP (·.anyMeasured) : ℚ) / results.length ≤
        results.countP (·.anyMeasured) / (results.filter kept).length := by
      apply div_le_div_of_nonneg_left
      · positivity
      · exact_mod_cast List.length_pos_of_mem listed
      · exact_mod_cast fewer
    rw [sameMeasured]
    linarith
  · rw [mtuValues, sameMtus]
    exact found

def exampleTarget (port : UInt16) : Target := ⟨"example", "example", port⟩

/-- Ten targets: four that carry 1500 bytes over three transports, three that carry less over one,
and three that do not resolve. -/
def exampleProbed : List (Target × Answers) :=
  List.replicate 4 (exampleTarget 443, ⟨true, true, 1500, none, some 1500, some 1460, some 1500⟩) ++
    List.replicate 3 (exampleTarget 0, ⟨true, false, 0, some 1280, none, none, none⟩) ++
    List.replicate 3 (exampleTarget 443, ⟨false, false, 0, none, none, none, none⟩)

def exampleResults : List MtuTestResult :=
  exampleProbed.map fun (target, answers) => testTarget target answers

theorem conclude_without_silent_example :
    conclude (exampleResults.filter (·.anyMeasured)) = some (.mostlyOk 80) :=
  conclude_without_silent (fun _ _ measured => measured)
    (show conclude exampleResults = some (.mostlyOk 80) by decide +kernel)

section Status
variable {values : List Nat}

theorem pctOk_le_iff (measured : values ≠ []) (percent : Nat) :
    (percent : ℚ) ≤ pctOk values ↔ percent * values.length ≤ 100 * values.countP (1500 ≤ ·) := by
  have some : 0 < values.length := List.length_pos_iff.mpr measured
  have whole : max values.length 1 = values.length := max_eq_left some
  have positive : (0 : ℚ) < values.length := by exact_mod_cast some
  rw [pctOk, whole, div_mul_eq_mul_div, le_div_iff₀ positive, mul_comm _ (100 : ℚ)]
  exact_mod_cast Iff.rfl

theorem medianMtu_lt_iff (sorted : values.Pairwise (· ≤ ·)) (measured : values ≠ []) :
    medianMtu values < 1400 ↔ values.length < 2 * values.countP (· < 1400) := by
  have within : values.length / 2 < values.length :=
    Nat.div_lt_self (List.length_pos_iff.mpr measured) (by decide)
  have middle : values[values.length / 2]? = some (medianMtu values) := by
    rw [medianMtu, List.getElem?_eq_getElem within]
    rfl
  have rank : (∃ item, values[values.length / 2]? = some item ∧ item < 1400) ↔
      values.length / 2 < values.countP (· < 1400) := getElem?_lt_iff sorted _
  rw [middle] at rank
  constructor
  · intro low
    have more := rank.mp ⟨_, rfl, low⟩
    omega
  · intro most
    obtain ⟨item, found, low⟩ := rank.mpr (by omega)
    rw [Option.some.inj found]
    exact low

/-- The status depends on how many of the measurements reach 1500 and how many stay below 1400. -/
theorem reportVerdict_status (sorted : values.Pairwise (· ≤ ·)) (measured : values ≠ []) :
    (reportVerdict values).status =
      if 4 * values.length ≤ 5 * values.countP (1500 ≤ ·) then "PASS"
      else if 2 * values.countP (· < 1400) ≤ values.length then "REVIEW" else "ACTION_NEEDED" := by
  have whole := List.length_eq_countP_add_countP (fun m : Nat => decide (1500 ≤ m)) (l := values)
  have apart : values.countP (· < 1400) ≤ values.countP fun m : Nat => ¬ decide (1500 ≤ m) =
      true := by
    refine List.countP_mono_left fun m _ low => ?_
    simp only [decide_eq_true_eq] at low ⊢
    omega
  have most := pctOk_le_iff measured 80
  have nearlyAll := pctOk_le_iff measured 95
  have median := medianMtu_lt_iff sorted measured
  by_cases full : 4 * values.length ≤ 5 * values.countP (1500 ≤ ·)
  · rw [if_pos full]
    have mostly : 80 ≤ pctOk values ∧ 1400 ≤ medianMtu values :=
      ⟨by exact_mod_cast most.mpr (by omega), by omega⟩
    by_cases clean : 95 ≤ pctOk values ∧ 1400 ≤ minMtuFound values
    · have verdict : reportVerdict values = ⟨"PASS", none, none⟩ := if_pos clean
      rw [verdict]
    · have verdict : reportVerdict values = ⟨"PASS", none, none⟩ :=
        (if_neg clean).trans (if_pos mostly)
      rw [verdict]
  · rw [if_neg full]
    have notClean : ¬ (95 ≤ pctOk values ∧ 1400 ≤ minMtuFound values) := by
      rintro ⟨high, -⟩
      have counted := nearlyAll.mp (by exact_mod_cast high)
      omega
    have notMostly : ¬ (80 ≤ pctOk values ∧ 1400 ≤ medianMtu values) := by
      rintro ⟨high, -⟩
      have counted := most.mp (by exact_mod_cast high)
      omega
    by_cases central : 1400 ≤ medianMtu values
    · have verdict : reportVerdict values = ⟨"REVIEW", _, _⟩ :=
        (if_neg notClean).trans ((if_neg notMostly).trans (if_pos central))
      rw [verdict, if_pos (by omega)]
    · have verdict : reportVerdict values = ⟨"ACTION_NEEDED", _, _⟩ :=
        (if_neg notClean).trans ((if_neg notMostly).trans (if_neg central))
      rw [verdict, if_neg (by omega)]

end Status

section Verdicts
variable {results : List MtuTestResult}

theorem mtuValues_perm : (mtuValues results).Perm ((allMtus results).map (·.2.2)) :=
  sortByKey_perm _

theorem mtuValues_sorted : (mtuValues results).Pairwise (· ≤ ·) := sortByKey_sorted _

theorem countP_mtuValues (p : Nat → Bool) :
    (mtuValues results).countP p = (allMtus results).countP fun entry => p entry.2.2 := by
  rw [mtuValues_perm.countP_eq, List.countP_map]
  rfl

theorem length_mtuValues : (mtuValues results).length = (allMtus results).length := by
  rw [mtuValues_perm.length_eq, List.length_map]

/-- The status of a covered run. -/
theorem status_of_covered {conclusion : Conclusion}
    (concluded : conclude results = some conclusion) :
    conclusion.verdict.status =
      if 4 * (allMtus results).length ≤ 5 * (allMtus results).countP (1500 ≤ ·.2.2) then "PASS"
      else if 2 * (allMtus results).countP (·.2.2 < 1400) ≤ (allMtus results).length then
        "REVIEW" else "ACTION_NEEDED" := by
  obtain ⟨covered, rfl⟩ := conclude_eq_some_iff.mp concluded
  have measured : mtuValues results ≠ [] := by
    intro empty
    have none : allMtus results = [] := by
      rw [← List.length_eq_zero_iff, ← length_mtuValues, empty]
      rfl
    rw [allMtus_eq_nil_iff, covered.1] at none
    cases none
  rw [← reportVerdict_eq, reportVerdict_status mtuValues_sorted measured, length_mtuValues,
    countP_mtuValues, countP_mtuValues]

/-- The run prints a verdict of the status. -/
def Concluded (results : List MtuTestResult) (status : String) : Prop :=
  ∃ conclusion, conclude results = some conclusion ∧ conclusion.verdict.status = status

theorem concluded_iff_status (status : String) :
    Concluded results status ↔ Covered results ∧
      (if 4 * (allMtus results).length ≤ 5 * (allMtus results).countP (1500 ≤ ·.2.2) then "PASS"
      else if 2 * (allMtus results).countP (·.2.2 < 1400) ≤ (allMtus results).length then "REVIEW"
      else "ACTION_NEEDED") = status := by
  constructor
  · rintro ⟨conclusion, concluded, rfl⟩
    exact ⟨(conclude_eq_some_iff.mp concluded).1, (status_of_covered concluded).symm⟩
  · rintro ⟨covered, rfl⟩
    have concluded := conclude_eq_some_iff.mpr ⟨covered, rfl⟩
    exact ⟨_, concluded, status_of_covered concluded⟩

theorem concluded_pass_iff : Concluded results "PASS" ↔
    Covered results ∧
      4 * (allMtus results).length ≤ 5 * (allMtus results).countP (1500 ≤ ·.2.2) := by
  rw [concluded_iff_status]
  refine and_congr_right fun _ => ?_
  split
  case isTrue full => exact iff_of_true rfl full
  case isFalse partly =>
    refine iff_of_false ?_ partly
    split <;> decide

/-- A report has the status that was printed. -/
theorem concluded_of_report {jsonOutput : Bool} {outputFile : Option String} {written : MtuReport}
    (reported : report results jsonOutput outputFile = some written) :
    Concluded results written.verdict.status := by
  obtain ⟨conclusion, concluded, rest⟩ := Option.bind_eq_some_iff.mp reported
  obtain ⟨asked, made⟩ := Option.ite_none_right_eq_some.mp rest
  refine ⟨conclusion, concluded, ?_⟩
  rw [← Option.some.inj made, ← (conclude_eq_some_iff.mp concluded).2, ← reportVerdict_eq]

/-- What is concluded depends on the share of targets that answered and on how many measurements
reach 1500 or stay below 1400; a report never has another status than the one printed. -/
theorem concluded_by_counts (results : List MtuTestResult) :
    (Concluded results "PASS" ↔
      Covered results ∧
        4 * (allMtus results).length ≤ 5 * (allMtus results).countP (1500 ≤ ·.2.2)) ∧
    (Concluded results "REVIEW" ↔
      Covered results ∧ 5 * (allMtus results).countP (1500 ≤ ·.2.2) < 4 * (allMtus results).length ∧
        2 * (allMtus results).countP (·.2.2 < 1400) ≤ (allMtus results).length) ∧
    (Concluded results "ACTION_NEEDED" ↔
      Covered results ∧ (allMtus results).length < 2 * (allMtus results).countP (·.2.2 < 1400)) ∧
    ∀ jsonOutput outputFile written, report results jsonOutput outputFile = some written →
      ∀ status, Concluded results status ↔ status = written.verdict.status := by
  have whole := List.length_eq_countP_add_countP
    (fun entry : String × String × Nat => decide (1500 ≤ entry.2.2))
    (l := allMtus results)
  have apart : (allMtus results).countP (·.2.2 < 1400) ≤
      (allMtus results).countP fun entry => ¬ decide (1500 ≤ entry.2.2) = true := by
    refine List.countP_mono_left fun entry _ low => ?_
    simp only [decide_eq_true_eq] at low ⊢
    omega
  refine ⟨concluded_pass_iff, ?_, ?_, ?_⟩
  · rw [concluded_iff_status]
    refine and_congr_right fun _ => ?_
    split
    case isTrue full => exact iff_of_false (by decide) (by omega)
    case isFalse partly =>
      split
      case isTrue central => exact iff_of_true rfl ⟨by omega, central⟩
      case isFalse low => exact iff_of_false (by decide) (by omega)
  · rw [concluded_iff_status]
    refine and_congr_right fun _ => ?_
    split
    case isTrue full => exact iff_of_false (by decide) (by omega)
    case isFalse partly =>
      split
      case isTrue central => exact iff_of_false (by decide) (by omega)
      case isFalse low => exact iff_of_true rfl (by omega)
  · intro jsonOutput outputFile written reported status
    obtain ⟨conclusion, concluded, same⟩ := concluded_of_report reported
    constructor
    · rintro ⟨other, also, rfl⟩
      rw [concluded] at also
      rw [← Option.some.inj also, same]
    · rintro rfl
      exact ⟨conclusion, concluded, same⟩

end Verdicts

/-- Some transport to the target carries 1500 bytes. -/
def MtuTestResult.reaches (r : MtuTestResult) : Bool := r.mtus.any (1500 ≤ ·.2.2)

/-- No target is probed over more than three transports. -/
theorem mtus_testTarget (target : Target) (answers : Answers) :
    (testTarget target answers).mtus.length ≤ 3 := by
  have atMost : ∀ {α β : Type} (field : Option α) (f : α → β), (field.map f).toList.length ≤ 1 := by
    intro α β field f
    cases field with
    | none => exact Nat.zero_le 1
    | some m => exact le_rfl
  simp only [MtuTestResult.mtus, List.length_append]
  have icmp := atMost (testTarget target answers).icmpMtu fun m =>
    ((testTarget target answers).desc, "ICMP", m)
  have tcp :=
    atMost (testTarget target answers).tcpMtu fun m => ((testTarget target answers).desc, "TCP", m)
  have udp :=
    atMost (testTarget target answers).udpMtu fun m => ((testTarget target answers).desc, "UDP", m)
  have quic := atMost (testTarget target answers).quicMtu fun m =>
    ((testTarget target answers).desc, "QUIC", m)
  by_cases nameServer : target.port = 0
  · have noTcp : (testTarget target answers).tcpMtu = none := by simp [testTarget, nameServer]
    rw [noTcp] at tcp ⊢
    simp only [Option.map_none, Option.toList_none, List.length_nil]
    omega
  · have noUdp : (testTarget target answers).udpMtu = none := by simp [testTarget, nameServer]
    rw [noUdp] at udp ⊢
    simp only [Option.map_none, Option.toList_none, List.length_nil]
    omega

/-- How the measurements that reach 1500 spread over targets of at most three transports. -/
theorem reaching_counts {results : List MtuTestResult} (three : ∀ r ∈ results, r.mtus.length ≤ 3) :
    (allMtus results).countP (1500 ≤ ·.2.2) ≤ 3 * results.countP (·.reaches) ∧
      results.countP (·.anyMeasured) + (allMtus results).countP (1500 ≤ ·.2.2) ≤
        (allMtus results).length + results.countP (·.reaches) := by
  induction results with
  | nil => exact ⟨le_rfl, le_rfl⟩
  | cons r rest ih =>
    obtain ⟨here, later⟩ := List.forall_mem_cons.mp three
    obtain ⟨spread, below⟩ := ih later
    have counts : (allMtus (r :: rest)).countP (1500 ≤ ·.2.2) =
        r.mtus.countP (1500 ≤ ·.2.2) + (allMtus rest).countP (1500 ≤ ·.2.2) := List.countP_append
    have lengths : (allMtus (r :: rest)).length = r.mtus.length + (allMtus rest).length :=
      List.length_append
    have within : r.mtus.countP (1500 ≤ ·.2.2) ≤ r.mtus.length := List.countP_le_length
    have one : (if r.anyMeasured = true then 1 else 0) ≤ r.mtus.length := by
      split
      case isTrue measured =>
        refine List.length_pos_iff.mpr fun none => ?_
        rw [mtus_eq_nil_iff, measured] at none
        cases none
      case isFalse => exact Nat.zero_le _
    rw [counts, lengths, List.countP_cons, List.countP_cons]
    by_cases reaches : r.reaches = true
    · rw [if_pos reaches]
      have atMostOne : (if r.anyMeasured = true then 1 else 0) ≤ 1 := by split <;> decide
      omega
    · have noneFull : r.mtus.countP (1500 ≤ ·.2.2) = 0 := by
        rw [List.countP_eq_zero]
        simpa [MtuTestResult.reaches] using reaches
      rw [if_neg reaches, noneFull]
      omega

/-- A run that passes has reached four of seven targets that answered, and so two of five of all
targets, with 1500 bytes. -/
theorem pass_reaches {probed : List (Target × Answers)}
    (passed : Concluded (probed.map fun (target, answers) => testTarget target answers) "PASS") :
    let results := probed.map fun (target, answers) => testTarget target answers
    4 * results.countP (·.anyMeasured) ≤ 7 * results.countP (·.reaches) ∧
      (2 / 5 : ℚ) ≤ results.countP (·.reaches) / probed.length + f64Epsilon := by
  intro results
  change Concluded results "PASS" at passed
  have three : ∀ r ∈ results, r.mtus.length ≤ 3 := by
    intro r listed
    obtain ⟨⟨target, answers⟩, -, rfl⟩ := List.mem_map.mp listed
    exact mtus_testTarget target answers
  obtain ⟨spread, below⟩ := reaching_counts three
  obtain ⟨⟨-, share⟩, full⟩ := concluded_pass_iff.mp passed
  have most : 4 * results.countP (·.anyMeasured) ≤ 7 * results.countP (·.reaches) := by omega
  refine ⟨most, ?_⟩
  have length : results.length = probed.length := List.length_map _
  have scaled : (4 : ℚ) * results.countP (·.anyMeasured) ≤ 7 * results.countP (·.reaches) := by
    exact_mod_cast most
  have ratio : (4 : ℚ) * (results.countP (·.anyMeasured) / probed.length) ≤
      7 * (results.countP (·.reaches) / probed.length) := by
    rw [mul_div_assoc', mul_div_assoc']
    exact div_le_div_of_nonneg_right scaled (Nat.cast_nonneg _)
  rw [length, defaultRequiredCoverage] at share
  have epsilon : (0 : ℚ) ≤ f64Epsilon := by norm_num [f64Epsilon]
  linarith

theorem pass_reaches_example :
    4 * exampleResults.countP (·.anyMeasured) ≤ 7 * exampleResults.countP (·.reaches) ∧
      (2 / 5 : ℚ) ≤ exampleResults.countP (·.reaches) / exampleProbed.length + f64Epsilon :=
  pass_reaches ⟨.mostlyOk 80, by decide +kernel, rfl⟩

/-! The answers of a target, as its probes find them. -/

/-- What the probes of one target meet. -/
structure TargetNetwork where
  resolves : Bool
  echoes : Attempts
  datagrams : List Sent → Nat → UdpAttempt
  tcpResolves : Bool
  connects : List Sent → Bool
  tcpMss : Option Nat
  quicMtu : Option Nat

def probeTarget (network : TargetNetwork) (minMtu maxMtu retries : Nat) : Answers :=
  let echo := probeIcmp network.echoes 64 1 []
  { resolves := network.resolves
    echoes := echo.1
    icmpMtu := (binarySearchMtuIcmp network.echoes minMtu maxMtu retries echo.2).1
    udpMtu :=
      (binarySearchMtuUdp (fun sent payload => sendUdpProbe (network.datagrams sent payload)) minMtu
        maxMtu retries []).1
    tcpMtu := (binarySearchMtuTcp network.tcpResolves network.connects minMtu maxMtu []).1
    tcpMss := network.tcpMss
    quicMtu := network.quicMtu }

/-- A run whose measurements all reach 1500 finds nothing to change. -/
theorem conclude_of_full {results : List MtuTestResult} (covered : Covered results)
    (full : ∀ entry ∈ allMtus results, 1500 ≤ entry.2.2) :
    conclude results = some (.noChangesNeeded 100) := by
  refine conclude_eq_some_iff.mpr ⟨covered, ?_⟩
  have values : ∀ m ∈ mtuValues results, 1500 ≤ m := by
    intro m listed
    obtain ⟨entry, measured, rfl⟩ := List.mem_map.mp (mtuValues_perm.mem_iff.mp listed)
    exact full entry measured
  have some : mtuValues results ≠ [] := by
    intro none
    have silent := @length_mtuValues results
    rw [none] at silent
    have any := allMtus_eq_nil_iff.mp (List.length_eq_zero_iff.mp silent.symm)
    rw [covered.1] at any
    cases any
  have positive : 0 < (mtuValues results).length := List.length_pos_iff.mpr some
  have all : (mtuValues results).countP (1500 ≤ ·) = (mtuValues results).length :=
    List.countP_eq_length.mpr fun m listed => decide_eq_true (values m listed)
  have share : pctOk (mtuValues results) = 100 := by
    have whole : ((mtuValues results).length : ℚ) ≠ 0 := by exact_mod_cast positive.ne'
    rw [pctOk, all, max_eq_left positive, div_self whole, one_mul]
  have lowest : 1400 ≤ minMtuFound (mtuValues results) := by
    obtain ⟨first, rest, shape⟩ := List.exists_cons_of_ne_nil some
    have least := values first (by rw [shape]; exact List.mem_cons_self)
    rw [minMtuFound, shape]
    exact le_trans (by decide) least
  rw [concludeFrom, if_pos ⟨by rw [share]; norm_num, lowest⟩, share]
  norm_num

/-- A target that answers only over TCP is measured at the largest size asked for. -/
theorem mtus_probeTarget {target : Target} {network : TargetNetwork} (listens : 0 < target.port)
    (resolves : network.tcpResolves = true) (connects : ∀ sent, network.connects sent = true)
    (silent : ∀ sent payload, network.echoes sent payload ≠ .ok true)
    (noQuic : network.quicMtu = none) {minMtu maxMtu : Nat} (nonempty : minMtu ≤ maxMtu)
    (retries : Nat) :
    (testTarget target (probeTarget network minMtu maxMtu retries)).mtus =
      [(target.desc, "TCP", maxMtu)] := by
  have unanswered : (probeTarget network minMtu maxMtu retries).echoes = false := by
    by_contra answered
    obtain ⟨sent, arrived⟩ := exists_answered 2 (Bool.not_eq_false _ ▸ answered)
    exact silent sent 64 arrived
  have connected : (probeTarget network minMtu maxMtu retries).tcpMtu = some maxMtu := by
    show (binarySearchMtuTcp network.tcpResolves network.connects minMtu maxMtu []).1 = some maxMtu
    rw [resolves]
    exact tcp_search_accepted connects nonempty []
  have noDatagram : (probeTarget network minMtu maxMtu retries).quicMtu = none := noQuic
  have port : target.port ≠ 0 := fun zero => by
    rw [zero] at listens
    exact absurd listens (by decide)
  simp [MtuTestResult.mtus, testTarget, unanswered, connected, noDatagram, listens, port]

/-- Two servers that filter ICMP and take connections. -/
def listeningTargets : List (Target × TargetNetwork) :=
  [(exampleTarget 443, ⟨true, fun _ _ => .error (), fun _ _ => .failed, true, fun _ => true,
    none, none⟩), (exampleTarget 80,
    ⟨true, fun _ _ => .ok false, fun _ _ => .failed, true, fun _ => true, some 1360, none⟩)]

end FragglePacket.Cli
