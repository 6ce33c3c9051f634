import FragglePacket.Lists.Extremum
import Mathlib.Algebra.Order.Ring.Unbundled.Rat
import Mathlib.Tactic.Linarith

/-! Whether the observations behind a figure are still valid when the figure is emitted, and which
one overran its horizon the most. -/

namespace FragglePacket.NetworkTests

open FragglePacket.Lists

/-- A value, when it was taken in seconds from the start of the run, and for
how long it stays usable. -/
structure Observation (α : Type) where
  value : α
  takenAtElapsedSecs : ℚ
  validForSecs : ℚ

/-- An age below zero counts as zero. -/
def Observation.ageSecs {α : Type} (obs : Observation α) (now : ℚ) : ℚ :=
  max (now - obs.takenAtElapsedSecs) 0

def Observation.isFreshAt {α : Type} (obs : Observation α) (now : ℚ) : Bool :=
  if obs.validForSecs < 0 then false else decide (obs.ageSecs now ≤ obs.validForSecs)

inductive Freshness where
  | fresh
  | stale (staleInputs : List String) (worstAgeSecs horizonSecs : ℚ)
  deriving DecidableEq

def Freshness.permitsDerivedFigure : Freshness → Bool
  | fresh => true
  | stale .. => false

structure InputTiming where
  name : String
  takenAtElapsedSecs : ℚ
  validForSecs : ℚ
  deriving DecidableEq

def InputTiming.observation (i : InputTiming) : Observation Unit :=
  ⟨(), i.takenAtElapsedSecs, i.validForSecs⟩

/-- The names so far, and the age and horizon of the worst of them. -/
structure StaleScan where
  staleInputs : List String
  worstAge : ℚ
  worstHorizon : ℚ

def StaleScan.step (now : ℚ) (scan : StaleScan) (i : InputTiming) : StaleScan :=
  let obs := i.observation
  if obs.isFreshAt now then scan
  else
    let age := obs.ageSecs now
    let staleInputs := scan.staleInputs ++ [i.name]
    if scan.worstAge - scan.worstHorizon < age - i.validForSecs then
      ⟨staleInputs, age, i.validForSecs⟩
    else { scan with staleInputs }

def checkFreshness (inputs : List InputTiming) (now : ℚ) : Freshness :=
  let scan := inputs.foldl (StaleScan.step now) ⟨[], 0, 0⟩
  if scan.staleInputs.isEmpty then .fresh
  else .stale scan.staleInputs scan.worstAge scan.worstHorizon

section Worst
variable (now : ℚ)

/-- The input is inside a horizon that is not negative. -/
def Current (i : InputTiming) : Prop :=
  0 ≤ i.validForSecs ∧ max (now - i.takenAtElapsedSecs) 0 ≤ i.validForSecs

instance (i : InputTiming) : Decidable (Current now i) := inferInstanceAs (Decidable (_ ∧ _))

theorem isFreshAt_iff (i : InputTiming) : i.observation.isFreshAt now = true ↔ Current now i := by
  change (if i.validForSecs < 0 then false
    else decide (max (now - i.takenAtElapsedSecs) 0 ≤ i.validForSecs)) = true ↔ _
  rw [Current]
  split
  case isTrue negative => exact iff_of_false Bool.false_ne_true fun both =>
                            absurd both.1 (not_le.mpr negative)
  case isFalse nonneg => rw [decide_eq_true_eq, and_iff_right (not_lt.mp nonneg)]

/-- The age and the horizon of an input. -/
def timing (i : InputTiming) : ℚ × ℚ := (max (now - i.takenAtElapsedSecs) 0, i.validForSecs)

def overrun (pair : ℚ × ℚ) : ℚ := pair.1 - pair.2

def staleOf (inputs : List InputTiming) : List InputTiming :=
  inputs.filter fun i => !i.observation.isFreshAt now

theorem mem_staleOf {inputs : List InputTiming} {i : InputTiming} :
    i ∈ staleOf now inputs ↔ i ∈ inputs ∧ ¬ Current now i := by
  rw [staleOf, List.mem_filter, ← isFreshAt_iff]
  simp

/-- An input that is not current has overrun its horizon. -/
theorem overrun_pos {i : InputTiming} (stale : ¬ Current now i) : 0 < overrun (timing now i) := by
  have aged : 0 ≤ max (now - i.takenAtElapsedSecs) 0 := le_max_right _ _
  rw [overrun, timing, sub_pos]
  by_contra within
  exact stale ⟨aged.trans (not_lt.mp within), not_lt.mp within⟩

theorem step_stale {i : InputTiming} (stale : ¬ i.observation.isFreshAt now = true)
    (names : List String) (pair : ℚ × ℚ) :
    StaleScan.step now ⟨names, pair.1, pair.2⟩ i =
      ⟨names ++ [i.name], (raiseTo overrun pair (timing now i)).1,
        (raiseTo overrun pair (timing now i)).2⟩ := by
  rw [StaleScan.step, if_neg stale, raiseTo]
  change (if overrun pair < overrun (timing now i) then _ else _) = _
  split
  · rfl
  · rfl

/-- The scan gathers the stale inputs, and keeps the timing of the one with the largest overrun. -/
theorem foldl_step (inputs : List InputTiming) (names : List String) (pair : ℚ × ℚ) :
    inputs.foldl (StaleScan.step now) ⟨names, pair.1, pair.2⟩ =
      let worst := ((staleOf now inputs).map (timing now)).foldl (raiseTo overrun) pair
      ⟨names ++ (staleOf now inputs).map (·.name), worst.1, worst.2⟩ := by
  induction inputs generalizing names pair with
  | nil => simp [staleOf]
  | cons i inputs ih =>
    rw [List.foldl_cons]
    by_cases fresh : i.observation.isFreshAt now = true
    · have kept : staleOf now (i :: inputs) = staleOf now inputs := by simp [staleOf, fresh]
      rw [StaleScan.step, if_pos fresh, ih, kept]
    · have gained : staleOf now (i :: inputs) = i :: staleOf now inputs := by simp [staleOf, fresh]
      rw [step_stale now fresh, ih, gained, List.append_assoc]
      rfl

theorem checkFreshness_eq (inputs : List InputTiming) : checkFreshness inputs now =
    if staleOf now inputs = [] then .fresh
    else
      let worst := ((staleOf now inputs).map (timing now)).foldl (raiseTo overrun) (0, 0)
      .stale ((staleOf now inputs).map (·.name)) worst.1 worst.2 := by
  have scanned := foldl_step now inputs [] (0, 0)
  rw [checkFreshness]
  dsimp only at scanned ⊢
  rw [scanned, List.nil_append]
  cases staleOf now inputs with
  | nil => rfl
  | cons i rest => rfl

/-- The scan's worst timing is that of a stale input, and no stale input overran by more. -/
theorem worst_spec {inputs : List InputTiming} (some : staleOf now inputs ≠ []) :
    ∃ i ∈ staleOf now inputs, ((staleOf now inputs).map (timing now)).foldl (raiseTo overrun)
      (0, 0) = timing now i ∧
      ∀ other ∈ staleOf now inputs, overrun (timing now other) ≤ overrun (timing now i) := by
  have above : ∀ pair ∈ (staleOf now inputs).map (timing now), overrun (0, 0) < overrun pair := by
    intro pair member
    obtain ⟨i, listed, rfl⟩ := List.mem_map.mp member
    have zero : overrun (0, 0) = 0 := sub_self 0
    rw [zero]
    exact overrun_pos now ((mem_staleOf now).mp listed).2
  have kept := foldl_raiseTo_mem overrun (mt List.map_eq_nil_iff.mp some) above
  obtain ⟨i, listed, same⟩ := List.mem_map.mp kept
  have largest := (foldl_raiseTo overrun ((staleOf now inputs).map (timing now)) (0, 0)).2
  refine ⟨i, listed, same.symm, fun other member => ?_⟩
  rw [same]
  exact largest _ (List.mem_cons_of_mem _ (List.mem_map_of_mem member))

/-- Time only adds to an age. -/
theorem not_current_of_le {now later : ℚ} (after : now ≤ later) {i : InputTiming}
    (stale : ¬ Current now i) :
    ¬ Current later i := by
  rintro ⟨nonneg, within⟩
  refine stale ⟨nonneg, le_trans ?_ within⟩
  exact max_le_max_right 0 (sub_le_sub_right after _)

end Worst

/-- The verdict is fresh exactly where every input is current. Otherwise it names the inputs
that are not, in order, with the age and horizon of one that overran the most; and once
stale, an input stays so. -/
theorem checkFreshness_worst (inputs : List InputTiming) (now : ℚ) :
    (checkFreshness inputs now = .fresh ↔
      ∀ i ∈ inputs, 0 ≤ i.validForSecs ∧ max (now - i.takenAtElapsedSecs) 0 ≤ i.validForSecs) ∧
    (∀ names age horizon, checkFreshness inputs now = .stale names age horizon →
      names = (inputs.filter fun i => ¬ Current now i).map (·.name) ∧
      ∃ worst ∈ inputs, ¬ Current now worst ∧ age = max (now - worst.takenAtElapsedSecs) 0 ∧
        horizon = worst.validForSecs ∧ ∀ other ∈ inputs, ¬ Current now other →
          max (now - other.takenAtElapsedSecs) 0 - other.validForSecs ≤ age - horizon) ∧
    ∀ i ∈ inputs, i.observation.isFreshAt now = false → ∀ later, now ≤ later →
      i.observation.isFreshAt later = false := by
  have listed : staleOf now inputs = inputs.filter fun i => ¬ Current now i := by
    refine List.filter_congr fun i _ => ?_
    have fresh := isFreshAt_iff now i
    by_cases current : Current now i
    · simp [current, fresh.mpr current]
    · have stale : i.observation.isFreshAt now = false :=
        Bool.eq_false_iff.mpr (mt fresh.mp current)
      simp [current, stale]
  refine ⟨?_, ?_, ?_⟩
  · have none : staleOf now inputs = [] ↔ ∀ i ∈ inputs, Current now i := by
      rw [listed, List.filter_eq_nil_iff]
      simp
    rw [checkFreshness_eq]
    split
    case isTrue empty => exact iff_of_true rfl (none.mp empty)
    case isFalse some => exact iff_of_false (by simp) (mt none.mpr some)
  · intro names age horizon stale
    rw [checkFreshness_eq] at stale
    split at stale
    · cases stale
    case isFalse some =>
      obtain ⟨sameNames, sameAge, sameHorizon⟩ := Freshness.stale.inj stale
      obtain ⟨worst, member, kept, largest⟩ := worst_spec now some
      obtain ⟨inInputs, notCurrent⟩ := (mem_staleOf now).mp member
      rw [kept] at sameAge sameHorizon
      refine ⟨by rw [← sameNames, listed], worst, inInputs, notCurrent, sameAge.symm,
        sameHorizon.symm, ?_⟩
      intro other present overran
      rw [← sameAge, ← sameHorizon]
      exact largest other ((mem_staleOf now).mpr ⟨present, overran⟩)
  · intro i _ stale later after
    have notCurrent : ¬ Current now i := fun current => by
      rw [(isFreshAt_iff now i).mpr current] at stale
      cases stale
    exact Bool.eq_false_iff.mpr (mt (isFreshAt_iff later i).mp (not_current_of_le after notCurrent))

end FragglePacket.NetworkTests
