import Mathlib.Algebra.Order.Floor.Semiring
import Mathlib.Algebra.Order.Field.Basic
import Mathlib.Tactic.Linarith

/-! Values at whole ranks, joined by straight lines. -/

namespace FragglePacket.Lists

section Interpolation
variable {K : Type*} [Field K] [LinearOrder K] [FloorSemiring K]

/-- The value at a rank, between those at the whole ranks around it. -/
def interpolate (value : ℕ → K) (rank : K) : K :=
  value ⌊rank⌋₊ + (value ⌈rank⌉₊ - value ⌊rank⌋₊) * (rank - ⌊rank⌋₊)

variable {value : ℕ → K}

/-- At a whole rank the slope behind it does not matter. -/
private theorem interpolate_eq {rank : K} (nonneg : 0 ≤ rank) :
    interpolate value rank = value ⌊rank⌋₊ + (value (⌊rank⌋₊ + 1) - value ⌊rank⌋₊) *
      (rank - ⌊rank⌋₊) := by
  rcases (Nat.floor_le nonneg).eq_or_lt with whole | beyond
  · rw [interpolate, sub_eq_zero.mpr whole.symm, mul_zero, mul_zero]
  · have next : ⌈rank⌉₊ = ⌊rank⌋₊ + 1 :=
      le_antisymm (Nat.ceil_le_floor_add_one rank) (Nat.lt_ceil.mpr beyond)
    rw [interpolate, next]

variable [IsStrictOrderedRing K]

@[simp] theorem interpolate_natCast (rank : ℕ) : interpolate value rank = value rank := by
  simp [interpolate]

section Monotone
variable {last : ℕ}
  (increasing : ∀ lower upper, lower ≤ upper → upper ≤ last → value lower ≤ value upper)
include increasing

theorem interpolate_bounds {rank : K} (nonneg : 0 ≤ rank) (atMost : rank ≤ last) :
    value ⌊rank⌋₊ ≤ interpolate value rank ∧ interpolate value rank ≤ value ⌈rank⌉₊ := by
  have rises := increasing ⌊rank⌋₊ ⌈rank⌉₊ (Nat.floor_le_ceil rank) (Nat.ceil_le.mpr atMost)
  have past : 0 ≤ rank - ⌊rank⌋₊ := sub_nonneg.mpr (Nat.floor_le nonneg)
  have within : rank - ⌊rank⌋₊ ≤ 1 := by linarith only [Nat.lt_floor_add_one rank]
  have above : 0 ≤ (value ⌈rank⌉₊ - value ⌊rank⌋₊) * (rank - ⌊rank⌋₊) :=
    mul_nonneg (sub_nonneg.mpr rises) past
  have below := mul_le_of_le_one_right (sub_nonneg.mpr rises) within
  rw [interpolate]
  constructor <;> linarith only [above, below]

/-- The lines between values that increase increase. -/
theorem interpolate_le_interpolate {lower upper : K} (nonneg : 0 ≤ lower) (le : lower ≤ upper)
    (atMost : upper ≤ last) :
    interpolate value lower ≤ interpolate value upper := by
  have upperNonneg := nonneg.trans le
  rcases (Nat.floor_mono le).eq_or_lt with same | apart
  · -- both are on one line
    rw [interpolate_eq nonneg, interpolate_eq upperNonneg, same]
    rcases le.eq_or_lt with rfl | before
    · exact le_rfl
    · have inside : (⌊upper⌋₊ : K) < last := by
        calc (⌊upper⌋₊ : K) = ⌊lower⌋₊ := by rw [same]
          _ ≤ lower := Nat.floor_le nonneg
          _ < upper := before
          _ ≤ last := atMost
      have rises := increasing ⌊upper⌋₊ (⌊upper⌋₊ + 1) (Nat.le_succ _) (Nat.cast_lt.mp inside)
      have scaled :=
        mul_le_mul_of_nonneg_left (sub_le_sub_right le (⌊upper⌋₊ : K)) (sub_nonneg.mpr rises)
      linarith only [scaled]
  · -- a whole rank is between them
    have between : ⌈lower⌉₊ ≤ ⌊upper⌋₊ := (Nat.ceil_le_floor_add_one lower).trans apart
    calc interpolate value lower ≤ value ⌈lower⌉₊ :=
          (interpolate_bounds increasing nonneg (le.trans atMost)).2
      _ ≤ value ⌊upper⌋₊ := increasing ⌈lower⌉₊ ⌊upper⌋₊ between (Nat.floor_le_of_le atMost)
      _ ≤ interpolate value upper := (interpolate_bounds increasing upperNonneg atMost).1

end Monotone

end Interpolation

end FragglePacket.Lists
