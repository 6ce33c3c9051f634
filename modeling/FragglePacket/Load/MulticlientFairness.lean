import FragglePacket.Lists.Moments
import Mathlib.Algebra.Order.Field.Rat

/-! How evenly several clients share what they achieve. Rates are exact rationals. -/

namespace FragglePacket.Load

open FragglePacket.Lists

/-- A single client's rate is refused, and so are rates that are all zero. -/
def jainFairnessIndex (rates : List ℚ) : Option ℚ :=
  if rates.length < 2 then none
  else
    let sum := rates.sum
    let sumOfSquares := (rates.map fun r => r * r).sum
    if sumOfSquares = 0 then none else some (sum * sum / (rates.length * sumOfSquares))

/-- What makes an index of these rates one of fairness. -/
structure FairnessIndex (index : List ℚ → Option ℚ) (rates : List ℚ) (value : ℚ) : Prop where
  computed : index rates = some value
  atLeast : 1 / rates.length ≤ value
  atMost : value ≤ 1
  equalShares : value = 1 ↔ ∀ first ∈ rates, ∀ second ∈ rates, first = second
  oneTakesAll : value = 1 / rates.length ↔ rates.countP (· ≠ 0) = 1
  orderFree : ∀ shuffled : List ℚ, shuffled.Perm rates → index shuffled = some value
  scaleFree : ∀ factor : ℚ, 0 < factor → index (rates.map (factor * ·)) = some value

section Jain
variable {rates : List ℚ} (several : 2 ≤ rates.length)
include several

theorem jainFairnessIndex_eq (loaded : sumSq rates ≠ 0) :
    jainFairnessIndex rates = some (rates.sum * rates.sum / (rates.length * sumSq rates)) := by
  rw [jainFairnessIndex, if_neg (not_lt.mpr several)]
  exact if_neg loaded

theorem jainFairnessIndex_perm {shuffled : List ℚ} (perm : shuffled.Perm rates)
    (loaded : sumSq rates ≠ 0) :
    jainFairnessIndex shuffled = jainFairnessIndex rates := by
  rw [jainFairnessIndex_eq several loaded, jainFairnessIndex_eq (perm.length_eq ▸ several)
    (sumSq_perm perm ▸ loaded), perm.sum_eq, perm.length_eq, sumSq_perm perm]

theorem jainFairnessIndex_scale {factor : ℚ} (scales : factor ≠ 0) (loaded : sumSq rates ≠ 0) :
    jainFairnessIndex (rates.map (factor * ·)) = jainFairnessIndex rates := by
  have length : (rates.map (factor * ·)).length = rates.length := List.length_map _
  have squares := sumSq_map_mul factor rates
  have total : (rates.map (factor * ·)).sum = factor * rates.sum := by
    rw [List.sum_map_mul_left, List.map_id']
  have loads : sumSq (rates.map (factor * ·)) ≠ 0 :=
    squares ▸ mul_ne_zero (mul_ne_zero scales scales) loaded
  rw [jainFairnessIndex_eq several loaded, jainFairnessIndex_eq (length ▸ several) loads, length,
    squares, total]
  congr 1
  field_simp

/-- The index is one of fairness for every list of rates that are not all zero. -/
theorem jainFairnessIndex_fair (nonneg : ∀ rate ∈ rates, 0 ≤ rate)
    (loaded : ∃ rate ∈ rates, rate ≠ 0) :
    ∃ value, FairnessIndex jainFairnessIndex rates value := by
  have loads : sumSq rates ≠ 0 := fun zero => by
    obtain ⟨rate, member, moves⟩ := loaded
    exact moves (sumSq_eq_zero_iff.mp zero rate member)
  have clients : (0 : ℚ) < rates.length := by exact_mod_cast (by omega : 0 < rates.length)
  have squares : 0 < sumSq rates := (sumSq_nonneg rates).lt_of_ne loads.symm
  have scale : 0 < rates.length * sumSq rates := mul_pos clients squares
  have computed := jainFairnessIndex_eq several loads
  -- both bounds and both cases of equality compare the square of the sum with the sum of squares
  have tight : 1 / (rates.length : ℚ) = sumSq rates / (rates.length * sumSq rates) := by field_simp
  refine ⟨_, computed, ?_, ?_, ?_, ?_, ?_, ?_⟩
  · rw [tight]
    exact div_le_div_of_nonneg_right (sumSq_le_sq_sum nonneg) scale.le
  · exact (div_le_one scale).mpr (sq_sum_le rates)
  · rw [div_eq_one_iff_eq scale.ne', sq_sum_eq_iff]
  · have some : 1 ≤ rates.countP (· ≠ 0) := List.one_le_countP_iff.mpr (by simpa using loaded)
    rw [tight, div_left_inj' scale.ne', eq_comm, sumSq_eq_sq_sum_iff nonneg]
    omega
  · intro shuffled perm
    rw [jainFairnessIndex_perm several perm loads, computed]
  · intro factor positive
    rw [jainFairnessIndex_scale several positive.ne' loads, computed]

end Jain

theorem jainFairnessIndex_fair_unequal : ∃ value, FairnessIndex jainFairnessIndex [100, 1] value :=
  jainFairnessIndex_fair (by decide) (by decide) ⟨100, by decide, by decide⟩

end FragglePacket.Load
