import Mathlib.Data.List.Induction
import Mathlib.Tactic.Linarith
import Mathlib.Tactic.Positivity
import FragglePacket.Text.Float

/-! How much of what a run set out to measure it measured, and whether that bears a conclusion. -/

namespace FragglePacket.NetworkTests

open FragglePacket.Text

inductive MissReason where
  | noAnswer
  | notAttempted
deriving DecidableEq

structure Coverage where
  attempted : Nat
  measured : Nat
  noAnswer : Nat
  notAttempted : Nat
deriving DecidableEq

namespace Coverage

def new : Coverage := ⟨0, 0, 0, 0⟩

def recordMeasured (cov : Coverage) : Coverage :=
  { cov with attempted := cov.attempted + 1, measured := cov.measured + 1 }

def recordMiss (cov : Coverage) : MissReason → Coverage
  | .noAnswer => { cov with attempted := cov.attempted + 1, noAnswer := cov.noAnswer + 1 }
  | .notAttempted =>
    { cov with attempted := cov.attempted + 1, notAttempted := cov.notAttempted + 1 }

/-- Nothing attempted is not zero percent. -/
def measuredFraction (cov : Coverage) : Option ℚ :=
  if cov.attempted = 0 then none else some (cov.measured / cov.attempted)

def isVacuous (cov : Coverage) : Bool := cov.measured == 0

end Coverage

inductive CoverageVerdict where
  | sufficient
  | degraded (measuredPct requiredPct : Nat)
  | vacuous
deriving DecidableEq

def CoverageVerdict.supportsConclusion : CoverageVerdict → Bool
  | .sufficient => true
  | _ => false

def defaultRequiredCoverage : ℚ := 7 / 10

/-- The gap between one and the next larger `f64`. -/
def f64Epsilon : ℚ := 1 / 2 ^ 52

/-- A share as whole percent, halves up. -/
def wholePct (share : ℚ) : Nat := ⌊share * 100 + 1 / 2⌋₊

/-- A share that is no number falls back to the default one. -/
def requiredShare : F64 → ℚ
  | .finite share => max 0 (min share 1)
  | _ => defaultRequiredCoverage

def classifyCoverage (cov : Coverage) (required : F64) : CoverageVerdict :=
  match cov.measuredFraction with
  | none => .vacuous
  | some fraction =>
    if cov.isVacuous then .vacuous
    else if requiredShare required ≤ fraction + f64Epsilon then .sufficient
    else .degraded (wholePct fraction) (wholePct (requiredShare required))

def coverageNote (cov : Coverage) : String :=
  toString cov.measured ++ " of " ++ toString cov.attempted ++ " characterized" ++
    (if 0 < cov.noAnswer then "; " ++ toString cov.noAnswer ++ " did not answer" else "") ++
    (if 0 < cov.notAttempted then "; " ++ toString cov.notAttempted ++
      " were not attempted" else "")

/-- One probe: measured, or missed for a reason. -/
def Coverage.record (cov : Coverage) : Option MissReason → Coverage
  | none => cov.recordMeasured
  | some reason => cov.recordMiss reason

def Coverage.recordAll (outcomes : List (Option MissReason)) : Coverage :=
  outcomes.foldl Coverage.record .new

/-- The counters are those of the outcomes. -/
structure Coverage.Counts (cov : Coverage) (outcomes : List (Option MissReason)) : Prop where
  attempted : cov.attempted = outcomes.length
  measured : cov.measured = outcomes.count none
  noAnswer : cov.noAnswer = outcomes.count (some .noAnswer)
  notAttempted : cov.notAttempted = outcomes.count (some .notAttempted)

section Counters
variable {cov : Coverage} {outcomes : List (Option MissReason)}

theorem Coverage.Counts.next (counts : cov.Counts outcomes) (outcome : Option MissReason) :
    (cov.record outcome).Counts (outcomes ++ [outcome]) := by
  obtain ⟨attempted, measured, noAnswer, notAttempted⟩ := counts
  cases outcome with
  | none => constructor <;> simp [Coverage.record, Coverage.recordMeasured, *]
  | some reason =>
    cases reason with
    | noAnswer => constructor <;> simp [Coverage.record, Coverage.recordMiss, *]
    | notAttempted => constructor <;> simp [Coverage.record, Coverage.recordMiss, *]

theorem Coverage.recordAll_counts : (recordAll outcomes).Counts outcomes := by
  induction outcomes using List.reverseRecOn with
  | nil => exact ⟨rfl, rfl, rfl, rfl⟩
  | append_singleton outcomes outcome ih =>
    rw [recordAll, List.foldl_append]
    exact ih.next outcome

/-- No probe is lost: each attempt is measured, unanswered or was never run. -/
theorem Coverage.Counts.attempted_eq (counts : cov.Counts outcomes) :
    cov.attempted = cov.measured + cov.noAnswer + cov.notAttempted := by
  obtain ⟨attempted, measured, noAnswer, notAttempted⟩ := counts
  rw [attempted, measured, noAnswer, notAttempted]
  clear attempted measured noAnswer notAttempted
  induction outcomes with
  | nil => rfl
  | cons outcome rest ih =>
    simp only [List.length_cons, List.count_cons, ih]
    cases outcome with
    | none => simp; omega
    | some reason =>
      cases reason with
      | noAnswer => simp; omega
      | notAttempted => simp; omega

end Counters

/-- When a run may conclude something. -/
theorem supportsConclusion_iff (cov : Coverage) (required : F64) :
    (classifyCoverage cov required).supportsConclusion = true ↔
      0 < cov.measured ∧ 0 < cov.attempted ∧
        requiredShare required ≤ cov.measured / cov.attempted + f64Epsilon := by
  by_cases attempted : cov.attempted = 0
  · simp [classifyCoverage, Coverage.measuredFraction, attempted,
      CoverageVerdict.supportsConclusion]
  · by_cases vacuous : cov.measured = 0
    · simp [classifyCoverage, Coverage.measuredFraction, Coverage.isVacuous, attempted, vacuous,
        CoverageVerdict.supportsConclusion]
    · have some : 0 < cov.attempted ∧ 0 < cov.measured :=
        ⟨Nat.pos_of_ne_zero attempted, Nat.pos_of_ne_zero vacuous⟩
      by_cases enough : requiredShare required ≤ cov.measured / cov.attempted + f64Epsilon
      · simp [classifyCoverage, Coverage.measuredFraction, Coverage.isVacuous, attempted,
          vacuous, enough, CoverageVerdict.supportsConclusion, some.1, some.2]
      · simp [classifyCoverage, Coverage.measuredFraction, Coverage.isVacuous, attempted,
          vacuous, enough, CoverageVerdict.supportsConclusion]

/-- What more misses support, fewer misses support. -/
theorem supportsConclusion_of_fewer {cov fewer : Coverage} {required : F64}
    (same : fewer.measured = cov.measured) (within : fewer.measured ≤ fewer.attempted)
    (less : fewer.attempted ≤ cov.attempted)
    (supported : (classifyCoverage cov required).supportsConclusion = true) :
    (classifyCoverage fewer required).supportsConclusion = true := by
  obtain ⟨measured, -, share⟩ := (supportsConclusion_iff cov required).mp supported
  have some : 0 < fewer.attempted := by omega
  refine (supportsConclusion_iff fewer required).mpr ⟨same ▸ measured, some, share.trans ?_⟩
  have ratio : (cov.measured : ℚ) / cov.attempted ≤ cov.measured / fewer.attempted := by
    apply div_le_div_of_nonneg_left
    · positivity
    · exact_mod_cast some
    · exact_mod_cast less
  rw [same]
  linarith

end FragglePacket.NetworkTests
