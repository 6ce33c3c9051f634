import Mathlib.Algebra.BigOperators.Group.List.Basic
import Mathlib.Algebra.Order.Group.MinMax
import Mathlib.Algebra.Order.Group.Unbundled.Abs

/-! The sum over the steps from each item of a list to the next. -/

namespace FragglePacket.Lists

section Steps
variable {α β : Type*} [AddCommGroup β]

def sumSteps (step : α → α → β) (items : List α) : β :=
  ((items.zip items.tail).map fun pair => step pair.1 pair.2).sum

theorem sumSteps_add (first second : α → α → β) (items : List α) :
    sumSteps first items + sumSteps second items =
      sumSteps (fun before after => first before after + second before after) items :=
  List.sum_map_add.symm

/-- The differences from each item to the next come to that from the first to the last. -/
theorem sumSteps_telescopes (value : α → β) {items : List α} {first last : α}
    (begins : items.head? = some first) (ends : items.getLast? = some last) :
    sumSteps (fun before after => value after - value before) items = value last - value first := by
  induction items generalizing first with
  | nil => cases begins
  | cons head rest ih =>
    obtain rfl : head = first := Option.some.inj begins
    cases rest with
    | nil =>
      obtain rfl : head = last := Option.some.inj ends
      simp [sumSteps]
    | cons next rest =>
      have later :=
        ih (rfl : (next :: rest).head? = some next) (by rwa [List.getLast?_cons_cons] at ends)
      have split : sumSteps (fun before after => value after - value before)
          (head :: next :: rest) =
          value next - value head + sumSteps (fun before after => value after - value before)
            (next :: rest) := by
        simp [sumSteps]
      rw [split, later, add_comm, sub_add_sub_cancel]

variable [LinearOrder β] [IsOrderedAddMonoid β]

/-- The increases and the decreases come to the sizes of the steps. -/
theorem sumSteps_inc_add_dec (value : α → β) (items : List α) :
    sumSteps (fun before after => max (value after - value before) 0) items +
        sumSteps (fun before after => max (value before - value after) 0) items =
      sumSteps (fun before after => |value after - value before|) items := by
  rw [sumSteps_add]
  congr 1
  funext before after
  rw [← neg_sub (value after), max_zero_add_max_neg_zero_eq_abs_self]

/-- The increases exceed the decreases by the steps as they are. -/
theorem sumSteps_inc_eq (value : α → β) (items : List α) :
    sumSteps (fun before after => max (value after - value before) 0) items =
      sumSteps (fun before after => value after - value before) items +
        sumSteps (fun before after => max (value before - value after) 0) items := by
  rw [sumSteps_add]
  congr 1
  funext before after
  rw [← neg_sub (value after), ← sub_eq_iff_eq_add, max_zero_sub_max_neg_zero_eq_self]

/-- Steps that are all below a size stay below that many times the size together. -/
theorem abs_sub_lt_of_chain (value : α → β) {size : β} {items : List α} {first last : α}
    (more : 1 < items.length) (begins : items.head? = some first)
    (ends : items.getLast? = some last)
    (small : items.IsChain fun before after => |value after - value before| < size) :
    |value last - value first| < (items.length - 1) • size := by
  induction items generalizing first with
  | nil => cases begins
  | cons head rest ih =>
    obtain rfl : head = first := Option.some.inj begins
    cases rest with
    | nil => exact absurd more (lt_irrefl 1)
    | cons next rest =>
      obtain ⟨here, later⟩ := List.isChain_cons_cons.mp small
      cases rest with
      | nil =>
        obtain rfl : next = last := Option.some.inj ends
        have single : ([head, next].length - 1) • size = size := one_nsmul size
        rw [single]
        exact here
      | cons third rest =>
        have beyond : |value last - value next| < (rest.length + 1) • size :=
          ih (Nat.one_lt_succ_succ _) rfl (by rwa [List.getLast?_cons_cons] at ends) later
        have apart : |value last - value head| ≤
            |value last - value next| + |value next - value head| :=
          abs_sub_le (value last) (value next) (value head)
        have counted : (head :: next :: third :: rest).length - 1 = rest.length + 1 + 1 := rfl
        rw [counted, succ_nsmul]
        exact apart.trans_lt (add_lt_add beyond here)

end Steps

end FragglePacket.Lists
