import Mathlib.Data.List.GetD
import Mathlib.Order.Bounds.Basic
import FragglePacket.Lists.Interpolation
import FragglePacket.Lists.Steps
import FragglePacket.NocMetrics.Window

/-! What the window functions have to do with each other and with the order of the samples. -/

namespace FragglePacket.NocMetrics

open FragglePacket.Lists

namespace Window

section Steps
variable {window : List Sample}

theorem stepSum_eq (step : ℚ → ℚ → ℚ) (some : window ≠ []) :
    stepSum step window = .some (sumSteps (fun before after => step before.2 after.2)
      (sortedValues window)) := by
  have sorted : sortedValues window ≠ [] := sortByKey_eq_nil_iff.not.mpr some
  rw [stepSum, if_neg sorted]
  rfl

/-- The sums of the increases, the decreases and the sizes of the steps. -/
structure StepLaws (window : List Sample) (inc dec abs : ℚ) : Prop where
  increases : stepInc window = some inc
  decreases : stepDec window = some dec
  sizes : stepAbs window = some abs
  sizes_eq : abs = inc + dec
  telescopes : ∃ earliest latest, FirstLeast (·.1) window earliest ∧
    LastGreatest (·.1) window latest ∧
    inc - dec = latest.2 - earliest.2

theorem exists_stepLaws (some : window ≠ []) : ∃ inc dec abs, StepLaws window inc dec abs := by
  let time (sample : Sample) := sample.1
  obtain ⟨earliest, begins, isEarliest⟩ : ∃ sample, (sortByKey time window).head? = .some sample ∧
    FirstLeast time window sample := exists_firstLeast some
  obtain ⟨latest, ends, isLatest⟩ : ∃ sample, (sortByKey time window).getLast? = .some sample ∧
    LastGreatest time window sample := exists_lastGreatest some
  refine ⟨_, _, _, stepSum_eq _ some, stepSum_eq _ some, stepSum_eq _ some, ?_, earliest, latest,
    isEarliest, isLatest, ?_⟩
  · exact (sumSteps_inc_add_dec (fun sample : Sample => sample.2) (sortedValues window)).symm
  · rw [sub_eq_iff_eq_add, ← sumSteps_telescopes (fun sample : Sample => sample.2) begins ends]
    exact sumSteps_inc_eq (fun sample : Sample => sample.2) (sortedValues window)

end Steps

section Percentile
variable {window : List Sample}

/-- The values in order. -/
def ordered (window : List Sample) : List ℚ := sortByKey id (window.map (·.2))

/-- The place of a percentile among the values. -/
def rank (window : List Sample) (q : ℚ) : ℚ :=
  min (max q 0) 100 / 100 * ((ordered window).length - 1 : Nat)

private theorem ordered_length : (ordered window).length = window.length := by
  rw [ordered, (sortByKey_perm _).length_eq, List.length_map]

theorem percentile_eq (some : window ≠ []) (q : ℚ) :
    percentile window q = .some (interpolate (fun place => (ordered window).getD place 0)
      (rank window q)) := by
  rw [percentile, if_neg some]
  change (if (ordered window).length = 1 then (ordered window).head? else
    if ⌊rank window q⌋.toNat = ⌈rank window q⌉.toNat then
      .some ((ordered window).getD ⌊rank window q⌋.toNat 0)
    else .some _) = _
  by_cases single : (ordered window).length = 1
  · obtain ⟨value, only⟩ := List.length_eq_one_iff.mp single
    have atStart : rank window q = (0 : ℕ) := by simp [rank, single]
    rw [if_pos single, atStart, interpolate_natCast, only]
    rfl
  · rw [if_neg single, Int.floor_toNat, Int.ceil_toNat]
    by_cases whole : ⌊rank window q⌋₊ = ⌈rank window q⌉₊
    · rw [if_pos whole, interpolate, ← whole, sub_self, zero_mul, add_zero]
    · rw [if_neg whole]
      rfl

theorem rank_nonneg (window : List Sample) (q : ℚ) : 0 ≤ rank window q := by
  unfold rank
  positivity

theorem rank_mono (window : List Sample) {lower upper : ℚ} (le : lower ≤ upper) :
    rank window lower ≤ rank window upper := by
  unfold rank
  gcongr

theorem rank_le (window : List Sample) (q : ℚ) :
    rank window q ≤ ((ordered window).length - 1 : ℕ) := by
  have share : min (max q 0) 100 / 100 ≤ 1 := (div_le_one (by norm_num)).mpr (min_le_right _ _)
  exact mul_le_of_le_one_left (Nat.cast_nonneg _) share

/-- The values in order increase from place to place. -/
private theorem ordered_increasing (window : List Sample) (lower upper : ℕ) (le : lower ≤ upper)
    (atMost : upper ≤ (ordered window).length - 1) :
    (ordered window).getD lower 0 ≤ (ordered window).getD upper 0 := by
  rcases le.eq_or_lt with rfl | before
  · exact le_rfl
  · have upperIn : upper < (ordered window).length := by omega
    rw [List.getD_eq_getElem _ _ (before.trans upperIn), List.getD_eq_getElem _ _ upperIn]
    exact List.pairwise_iff_getElem.mp (sortByKey_sorted _) lower upper
      (before.trans upperIn) upperIn before

/-- A percentile as a function of its share. -/
def curve (window : List Sample) (q : ℚ) : ℚ :=
  interpolate (fun place => (ordered window).getD place 0) (rank window q)

theorem curve_monotone (window : List Sample) : Monotone (curve window) := by
  intro lower upper le
  exact interpolate_le_interpolate (ordered_increasing window) (rank_nonneg window lower)
    (rank_mono window le)
    (rank_le window upper)

private theorem curve_zero : curve window 0 = (ordered window).getD 0 0 := by
  have atStart : rank window 0 = (0 : ℕ) := by simp [rank]
  rw [curve, atStart, interpolate_natCast]

private theorem curve_hundred :
    curve window 100 = (ordered window).getD ((ordered window).length - 1) 0 := by
  have atEnd : rank window 100 = ((ordered window).length - 1 : ℕ) := by simp [rank]
  rw [curve, atEnd, interpolate_natCast]

private theorem mem_values_iff (value : ℚ) :
    value ∈ window.map (·.2) ↔ ∃ place < (ordered window).length,
      (ordered window).getD place 0 = value := by
  have same : value ∈ ordered window ↔ value ∈ window.map (·.2) := (sortByKey_perm _).mem_iff
  rw [← same, List.mem_iff_getElem]
  constructor
  · rintro ⟨place, below, rfl⟩
    exact ⟨place, below, List.getD_eq_getElem _ _ below⟩
  · rintro ⟨place, below, rfl⟩
    exact ⟨place, below, (List.getD_eq_getElem _ _ below).symm⟩

/-- The percentiles of a window. -/
structure PercentileLaws (window : List Sample) (curve : ℚ → ℚ) : Prop where
  percentiles : ∀ q, percentile window q = some (curve q)
  monotone : Monotone curve
  least : IsLeast {value | value ∈ window.map (·.2)} (curve 0)
  greatest : IsGreatest {value | value ∈ window.map (·.2)} (curve 100)
  between : ∀ q, curve 0 ≤ curve q ∧ curve q ≤ curve 100

theorem percentileLaws (some : window ≠ []) : PercentileLaws window (curve window) := by
  have nonempty : 0 < (ordered window).length := by
    rw [ordered_length]
    exact List.length_pos_iff.mpr some
  refine ⟨percentile_eq some, curve_monotone window, ⟨?_, ?_⟩, ⟨?_, ?_⟩, ?_⟩
  · exact (mem_values_iff _).mpr ⟨0, nonempty, curve_zero.symm⟩
  · intro value listed
    obtain ⟨place, below, rfl⟩ := (mem_values_iff value).mp listed
    rw [curve_zero]
    exact ordered_increasing window 0 place (Nat.zero_le place) (by omega)
  · exact (mem_values_iff _).mpr ⟨(ordered window).length - 1, by omega, curve_hundred.symm⟩
  · intro value listed
    obtain ⟨place, below, rfl⟩ := (mem_values_iff value).mp listed
    rw [curve_hundred]
    exact ordered_increasing window place _ (by omega) le_rfl
  · -- a share is held between 0 and 100
    intro q
    have held : rank window q = rank window (min (max q 0) 100) := by
      unfold rank
      rw [max_eq_left (le_min (le_max_right q 0) (by norm_num)), min_eq_left (min_le_right _ _)]
    have same : curve window q = curve window (min (max q 0) 100) := by rw [curve, held, curve]
    rw [same]
    exact ⟨curve_monotone window (le_min (le_max_right q 0) (by norm_num)),
      curve_monotone window (min_le_right _ _)⟩

end Percentile

section Order
variable {window shuffled : List Sample}

theorem sortedValues_perm (perm : shuffled.Perm window) (distinct : (window.map (·.1)).Nodup) :
    sortedValues shuffled = sortedValues window :=
  sortByKey_eq_of_perm perm distinct

theorem sum_perm (perm : shuffled.Perm window) : sum shuffled = sum window := by
  rw [sum, sum, (perm.map _).sum_eq]
  simp only [← List.length_eq_zero_iff, perm.length_eq]

theorem avg_perm (perm : shuffled.Perm window) : avg shuffled = avg window := by
  rw [avg, avg, (perm.map _).sum_eq]
  simp only [← List.length_eq_zero_iff, perm.length_eq]

theorem percentile_perm (perm : shuffled.Perm window) (q : ℚ) :
    percentile shuffled q = percentile window q := by
  have keys : (sortByKey id (shuffled.map (·.2))).map id =
      (sortByKey id (window.map (·.2))).map id :=
    sortByKey_keys (perm.map (·.2))
  have values : sortByKey id (shuffled.map (·.2)) = sortByKey id (window.map (·.2)) := by
    rwa [List.map_id, List.map_id] at keys
  rw [percentile, percentile, values]
  simp only [← List.length_eq_zero_iff, perm.length_eq]

theorem apply_perm (perm : shuffled.Perm window) (distinct : (window.map (·.1)).Nodup)
    (name : String) :
    apply name shuffled = apply name window := by
  have sorted := sortedValues_perm perm distinct
  have lasts : last shuffled = last window := by rw [last, last, sorted]
  have steps : ∀ step, stepSum step shuffled = stepSum step window :=
    fun step => by rw [stepSum, stepSum, sorted]
  simp only [apply, lasts, sum_perm perm, avg_perm perm, q1, q2, q3, p95, p99, percentile_perm perm,
    stepInc, stepDec, stepAbs, steps]

end Order

/-- The laws of the window functions: the steps add up, the percentiles rise from the least
value to the greatest, and samples with times of their own may come in any order. -/
theorem window_laws (window : List Sample) :
    (window ≠ [] → (∃ inc dec abs, StepLaws window inc dec abs) ∧ ∃ curve,
      PercentileLaws window curve) ∧
      ((window.map (·.1)).Nodup → ∀ shuffled, shuffled.Perm window → ∀ name,
        apply name shuffled = apply name window) := by
  refine ⟨fun some => ⟨exists_stepLaws some, curve window, percentileLaws some⟩, ?_⟩
  intro distinct shuffled perm name
  exact apply_perm perm distinct name

theorem window_laws_climb :
    (∃ inc dec abs, StepLaws [(0, 10), (1, 15), (2, 12), (3, 20)] inc dec abs) ∧
      apply "last" [(3, 20), (1, 15), (0, 10), (2, 12)] =
        apply "last" [(0, 10), (1, 15), (2, 12), (3, 20)] :=
  ⟨((window_laws _).1 (List.cons_ne_nil _ _)).1, (window_laws _).2 (by decide) _ (by decide) "last"⟩

end Window

end FragglePacket.NocMetrics
