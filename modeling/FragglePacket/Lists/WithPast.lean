import Mathlib.Data.List.Basic
import Mathlib.Data.List.Count
import Mathlib.Order.Lattice

/-! What each item of a list gives rise to, in the light of the items before it, and how many pairs
of items stand in the wrong order. -/

namespace FragglePacket.Lists

section WithPast
variable {α β : Type*} (result : List α → α → Option β)

/-- The results of the items, each judged by the items before it. -/
def withPast (items : List α) : List β :=
  items.zipIdx.filterMap fun entry => result (items.take entry.2) entry.1

@[simp] theorem withPast_nil : withPast result [] = [] := rfl

theorem withPast_concat (items : List α) (item : α) :
    withPast result (items ++ [item]) = withPast result items ++ (result items item).toList := by
  have earlier : ∀ entry ∈ items.zipIdx,
      result ((items ++ [item]).take entry.2) entry.1 = result (items.take entry.2) entry.1 := by
    intro entry member
    have before : entry.2 ≤ items.length := by
      have below := (List.mem_zipIdx' member).1
      omega
    rw [List.take_append_of_le_length before]
  rw [withPast, List.zipIdx_append, List.filterMap_append, List.filterMap_congr earlier, withPast]
  congr 1
  cases judged : result items item <;> simp [judged]

/-- An item that the items before have is no first occurrence. -/
theorem eraseDups_concat [BEq α] [LawfulBEq α] (items : List α) (item : α) :
    (items ++ [item]).eraseDups = if items.contains item then items.eraseDups
      else items.eraseDups ++ [item] := by
  rw [List.eraseDups_append]
  cases present : items.contains item with
  | true =>
    have gone : [item].removeAll items = [] := List.filter_eq_nil_iff.mpr (by simpa using present)
    rw [gone, List.eraseDups_nil, List.append_nil]
    rfl
  | false =>
    have kept : [item].removeAll items = [item] := List.filter_eq_self.mpr (by simpa using present)
    rw [kept]
    rfl

end WithPast

section Inversions
variable {α : Type*} [LinearOrder α]

/-- How many pairs of items stand in the wrong order. -/
def inversions : List α → Nat
  | [] => 0
  | item :: rest => rest.countP (· < item) + inversions rest

theorem inversions_concat (items : List α) (item : α) :
    inversions (items ++ [item]) = inversions items + items.countP (item < ·) := by
  induction items with
  | nil => simp [inversions]
  | cons first items ih =>
    rw [List.cons_append, inversions, ih, inversions, List.countP_append, List.countP_singleton,
      List.countP_cons]
    omega

theorem inversions_eq_zero_iff (items : List α) :
    inversions items = 0 ↔ items.Pairwise (· ≤ ·) := by
  induction items with
  | nil => simp [inversions]
  | cons first items ih =>
    rw [inversions, Nat.add_eq_zero_iff, ih, List.pairwise_cons, List.countP_eq_zero]
    simp

end Inversions

end FragglePacket.Lists
