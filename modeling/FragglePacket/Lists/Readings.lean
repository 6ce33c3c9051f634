import Mathlib.Data.List.Forall2

/-! A list that is read entry by entry, where the reading of an entry may fail or go wrong, and
entries that are listed under a condition. -/

namespace FragglePacket.Lists

section
variable {α β γ : Type*} {Printed : α → β → Prop} {Shows : α → γ → Prop} {Good : α → Prop}
  {read : β → Option γ} {items : List α} {sources : List β} {found : List γ}

open List (Forall₂)

/-- The entries are read each in its place exactly where each can be. -/
theorem forall₂_filterMap_iff (printed : Forall₂ Printed items sources)
    (each : ∀ item source, Printed item source →
      ((∃ value, read source = some value ∧ Shows item value) ↔ Good item)) :
    Forall₂ Shows items (sources.filterMap read) ↔ ∀ item ∈ items, Good item := by
  induction printed with
  | nil => simp
  | @cons item source items sources first rest ih =>
    have here := each item source first
    cases value : read source with
    | none =>
      rw [value] at here
      have bad : ¬ Good item := fun good => by
        obtain ⟨_, found, _⟩ := here.mpr good
        cases found
      -- the list that is read is too short
      have short : (sources.filterMap read).length < items.length + 1 := by
        rw [rest.length_eq]
        exact Nat.lt_succ_of_le (List.length_filterMap_le read sources)
      rw [List.filterMap_cons, value]
      refine iff_of_false (fun shown => ?_) fun good => bad (good item List.mem_cons_self)
      exact absurd shown.length_eq (Nat.ne_of_gt short)
    | some value' =>
      rw [value] at here
      simp only [Option.some.injEq, exists_eq_left'] at here
      rw [List.filterMap_cons, value, List.forall_mem_cons, ← here, ← ih]
      exact List.forall₂_cons

theorem forall₂_getLast? (shown : Forall₂ Shows items found) :
    Option.Rel Shows items.getLast? found.getLast? := by
  rw [← List.head?_reverse, ← List.head?_reverse]
  have reversed := List.forall₂_reverse_iff.mpr shown
  generalize items.reverse = front, found.reverse = others at reversed
  cases reversed with
  | nil => exact Option.Rel.none
  | cons first _ => exact Option.Rel.some first

/-- Readings that all succeed succeed together. -/
theorem mapM_eq_some {f : α → Option γ} {g : α → γ}
    (each : ∀ item ∈ items, f item = some (g item)) :
    items.mapM f = some (items.map g) := by
  induction items with
  | nil => rfl
  | cons item items ih =>
    obtain ⟨here, later⟩ := List.forall_mem_cons.mp each
    rw [List.mapM_cons, here, ih later]
    rfl

end

section Entries
variable {α β : Type*} {condition : Prop} [Decidable condition] {entry : α}

/-- An entry that is listed under a condition is left out exactly where the condition fails. -/
theorem entry_eq_nil_iff : (if condition then [entry] else []) = [] ↔ ¬ condition := by
  by_cases holds : condition
  · simp [holds]
  · simp [holds]

theorem forall_mem_entry_iff {P : α → Prop} :
    (∀ item ∈ (if condition then [entry] else []), P item) ↔ (condition → P entry) := by
  by_cases holds : condition
  · simp [holds]
  · simp [holds]

/-- What is listed of a field that may be absent. -/
theorem elim_eq_nil_iff (field : Option α) (texts : α → List β) :
    field.elim [] texts = [] ↔ ∀ value ∈ field, texts value = [] := by
  cases field with
  | none => simp
  | some value => simp

end Entries

end FragglePacket.Lists
