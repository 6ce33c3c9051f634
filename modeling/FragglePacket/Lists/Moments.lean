import Mathlib.Algebra.Order.BigOperators.Group.List
import Mathlib.Algebra.Order.Field.Basic
import Mathlib.Algebra.BigOperators.Ring.List
import Mathlib.Tactic.FieldSimp
import Mathlib.Tactic.Ring
import Mathlib.Tactic.Linarith
import Mathlib.Tactic.Positivity

/-! The sum of a list against the sum of its squares. -/

namespace FragglePacket.Lists

variable {α : Type*} [Field α]

def sumSq (items : List α) : α := (items.map fun item => item * item).sum

@[simp] theorem sumSq_nil : sumSq ([] : List α) = 0 := rfl

@[simp] theorem sumSq_cons (item : α) (items : List α) :
    sumSq (item :: items) = item * item + sumSq items := rfl

theorem sumSq_perm {items shuffled : List α} (perm : shuffled.Perm items) :
    sumSq shuffled = sumSq items :=
  (perm.map _).sum_eq

theorem sumSq_map_mul (factor : α) (items : List α) :
    sumSq (items.map (factor * ·)) = factor * factor * sumSq items := by
  induction items with
  | nil => simp
  | cons item items ih =>
    rw [List.map_cons, sumSq_cons, sumSq_cons, ih]
    ring

/-- The squared distances to any centre, by the sum and the sum of squares. -/
theorem sumSq_sub (items : List α) (centre : α) :
    sumSq (items.map (· - centre)) =
      sumSq items - 2 * centre * items.sum + items.length * (centre * centre) := by
  induction items with
  | nil => simp
  | cons item items ih =>
    rw [List.map_cons, sumSq_cons, sumSq_cons, ih, List.sum_cons, List.length_cons]
    push_cast
    ring

variable [LinearOrder α] [IsStrictOrderedRing α]

theorem sumSq_nonneg (items : List α) : 0 ≤ sumSq items := by
  induction items with
  | nil => exact le_rfl
  | cons item items ih =>
    rw [sumSq_cons]
    exact add_nonneg (mul_self_nonneg item) ih

theorem sumSq_eq_zero_iff {items : List α} : sumSq items = 0 ↔ ∀ item ∈ items, item = 0 := by
  induction items with
  | nil => simp
  | cons item items ih =>
    rw [sumSq_cons, add_eq_zero_iff_of_nonneg (mul_self_nonneg item) (sumSq_nonneg items), ih,
      mul_self_eq_zero, List.forall_mem_cons]

section Spread

/-- What the mean leaves over of the squares is the spread about it. -/
theorem length_mul_sumSq_sub (items : List α) (some : items ≠ []) :
    items.length * sumSq items - items.sum * items.sum =
      items.length * sumSq (items.map (· - items.sum / items.length)) := by
  have positive : (items.length : α) ≠ 0 :=
    Nat.cast_ne_zero.mpr (mt List.length_eq_zero_iff.mp some)
  rw [sumSq_sub]
  field_simp
  ring

theorem sq_sum_le (items : List α) : items.sum * items.sum ≤ items.length * sumSq items := by
  rcases eq_or_ne items [] with rfl | some
  · simp
  · have spread := length_mul_sumSq_sub items some
    have nonneg : 0 ≤ items.length * sumSq (items.map (· - items.sum / items.length)) :=
      mul_nonneg (Nat.cast_nonneg _) (sumSq_nonneg _)
    linarith

theorem sq_sum_eq_iff (items : List α) :
    items.sum * items.sum = items.length * sumSq items ↔
      ∀ first ∈ items, ∀ second ∈ items, first = second := by
  rcases eq_or_ne items [] with rfl | some
  · simp
  · have positive : (items.length : α) ≠ 0 :=
      Nat.cast_ne_zero.mpr (mt List.length_eq_zero_iff.mp some)
    constructor
    · intro tight first inFirst second inSecond
      have spread := length_mul_sumSq_sub items some
      rw [← tight, sub_self, eq_comm, mul_eq_zero, or_iff_right positive, sumSq_eq_zero_iff]
        at spread
      have atMean (item : α) (member : item ∈ items) : item = items.sum / items.length :=
        sub_eq_zero.mp (spread _ (List.mem_map_of_mem member))
      rw [atMean first inFirst, atMean second inSecond]
    · intro alike
      obtain ⟨item, rest, rfl⟩ := List.exists_cons_of_ne_nil some
      have same : item :: rest = List.replicate (item :: rest).length item :=
        List.eq_replicate_of_mem fun other member => alike other member item List.mem_cons_self
      rw [same, sumSq, List.map_replicate, List.sum_replicate, List.sum_replicate,
        List.length_replicate]
      simp only [nsmul_eq_mul]
      ring

end Spread

section Cross
variable {items : List α}

/-- The products of different items make the square of a sum exceed the sum of squares. -/
theorem sumSq_le_sq_sum (nonneg : ∀ item ∈ items, 0 ≤ item) :
    sumSq items ≤ items.sum * items.sum := by
  induction items with
  | nil => simp
  | cons item items ih =>
    obtain ⟨first, others⟩ := List.forall_mem_cons.mp nonneg
    have crossed := mul_nonneg first (List.sum_nonneg others)
    rw [sumSq_cons, List.sum_cons]
    linarith [ih others]

theorem sum_eq_zero_iff (nonneg : ∀ item ∈ items, 0 ≤ item) :
    items.sum = 0 ↔ ∀ item ∈ items, item = 0 :=
  ⟨fun zero _ => List.all_zero_of_le_zero_le_of_sum_eq_zero nonneg zero, List.sum_eq_zero⟩

theorem sumSq_eq_sq_sum_iff (nonneg : ∀ item ∈ items, 0 ≤ item) :
    sumSq items = items.sum * items.sum ↔ items.countP (· ≠ 0) ≤ 1 := by
  induction items with
  | nil => simp
  | cons item items ih =>
    obtain ⟨first, others⟩ := List.forall_mem_cons.mp nonneg
    have rest := sumSq_le_sq_sum others
    have total := List.sum_nonneg others
    rw [sumSq_cons, List.sum_cons, List.countP_cons]
    rcases first.eq_or_lt with rfl | positive
    · simpa using ih others
    · have bare : item * item + sumSq items = (item + items.sum) * (item + items.sum) ↔
          items.sum = 0 := by
        constructor
        · intro tight
          have crossed : item * items.sum ≤ 0 := by linarith
          exact (nonpos_of_mul_nonpos_right crossed positive).antisymm total
        · intro zero
          rw [sumSq_eq_zero_iff.mpr ((sum_eq_zero_iff others).mp zero), zero]
          ring
      rw [bare, sum_eq_zero_iff others]
      have counted : items.countP (· ≠ 0) = 0 ↔ ∀ item ∈ items, item = 0 := by
        simp [List.countP_eq_zero]
      rw [← counted, if_pos (by simpa using positive.ne')]
      omega

end Cross

section Mean
variable {items : List α}

theorem mean_mul_length (some : items ≠ []) : items.sum / items.length * items.length = items.sum :=
  div_mul_cancel₀ _ (Nat.cast_ne_zero.mpr (mt List.length_eq_zero_iff.mp some))

/-- The items replaced by their mean have the same sum. -/
theorem sum_map_mean (some : items ≠ []) :
    (items.map fun _ => items.sum / items.length).sum = (items.map id).sum := by
  rw [List.map_const', List.sum_replicate, nsmul_eq_mul, mul_comm, mean_mul_length some,
    List.map_id]

/-- A mean lies between two of its items. -/
theorem mean_between (some : items ≠ []) :
    (∃ low ∈ items, low ≤ items.sum / items.length) ∧
      ∃ high ∈ items, items.sum / items.length ≤ high :=
  ⟨List.exists_le_of_sum_le some id _ (sum_map_mean some).ge, List.exists_le_of_sum_le some _ id
    (sum_map_mean some).le⟩

end Mean

end FragglePacket.Lists
