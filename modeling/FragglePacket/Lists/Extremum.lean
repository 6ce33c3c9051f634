import Mathlib.Order.MinMax

/-! The element with the largest key: the last one where several have it, or
the first one over a seed. -/

namespace FragglePacket.Lists

section
variable {α : Type*} {β : Type*} [LinearOrder β] (key : α → β)

def laterMax (best : Option α) (item : α) : Option α :=
  match best with
  | none => some item
  | some best => if key best ≤ key item then some item else some best

def maxByKey (items : List α) : Option α := items.foldl (laterMax key) none

/-- The result of the fold is the start or one of the items, and none has a larger key. -/
private theorem foldl_laterMax (items : List α) (start : α) :
    ∃ best, items.foldl (laterMax key) (some start) = some best ∧ best ∈ start :: items ∧
      ∀ item ∈ start :: items, key item ≤ key best := by
  induction items generalizing start with
  | nil =>
    exact ⟨start, rfl, List.mem_cons_self, fun item member =>
      by simp [List.mem_singleton.mp member]⟩
  | cons head rest ih =>
    by_cases later : key start ≤ key head
    · obtain ⟨best, found, member, largest⟩ := ih head
      refine ⟨best, ?_, List.mem_cons_of_mem start member, ?_⟩
      · simpa only [List.foldl_cons, laterMax, if_pos later] using found
      · intro item other
        rcases List.mem_cons.mp other with rfl | other
        · exact le_trans later (largest head List.mem_cons_self)
        · exact largest item other
    · obtain ⟨best, found, member, largest⟩ := ih start
      refine ⟨best, ?_, ?_, ?_⟩
      · simpa only [List.foldl_cons, laterMax, if_neg later] using found
      · rcases List.mem_cons.mp member with rfl | member
        · exact List.mem_cons_self
        · exact List.mem_cons_of_mem _ (List.mem_cons_of_mem _ member)
      · intro item other
        rcases List.mem_cons.mp other with rfl | other
        · exact largest item List.mem_cons_self
        · rcases List.mem_cons.mp other with rfl | other
          · exact le_trans (le_of_lt (not_le.mp later)) (largest start List.mem_cons_self)
          · exact largest item (List.mem_cons_of_mem _ other)

theorem maxByKey_spec {items : List α} (some : items ≠ []) :
    ∃ best ∈ items, maxByKey key items = .some best ∧ ∀ item ∈ items, key item ≤ key best := by
  cases items with
  | nil => exact absurd rfl some
  | cons head rest =>
    obtain ⟨best, found, member, largest⟩ := foldl_laterMax key rest head
    exact ⟨best, member, found, largest⟩

section Raised

/-- An item takes the place of the best one only where its key is larger. -/
def raiseTo (best item : α) : α := if key best < key item then item else best

/-- What is kept is the seed or one of the items, and nothing has a larger key. -/
theorem foldl_raiseTo (items : List α) (seed : α) :
    items.foldl (raiseTo key) seed ∈ seed :: items ∧
      ∀ item ∈ seed :: items, key item ≤ key (items.foldl (raiseTo key) seed) := by
  induction items generalizing seed with
  | nil =>
    exact ⟨List.mem_cons_self, fun item member => (congrArg key (List.mem_singleton.mp member)).le⟩
  | cons head rest ih =>
    obtain ⟨member, largest⟩ := ih (raiseTo key seed head)
    obtain ⟨raised, others⟩ := List.forall_mem_cons.mp largest
    have both : key seed ≤ key (raiseTo key seed head) ∧
        key head ≤ key (raiseTo key seed head) := by
      rw [raiseTo]
      split
      case isTrue more => exact ⟨more.le, le_rfl⟩
      case isFalse less => exact ⟨le_rfl, not_lt.mp less⟩
    have kept : raiseTo key seed head ∈ seed :: head :: rest := by
      rw [raiseTo]
      split
      · exact List.mem_cons_of_mem seed List.mem_cons_self
      · exact List.mem_cons_self
    rw [List.foldl_cons]
    constructor
    · rcases List.mem_cons.mp member with same | later
      · rw [same]
        exact kept
      · exact List.mem_cons_of_mem seed (List.mem_cons_of_mem head later)
    · refine List.forall_mem_cons.mpr
        ⟨both.1.trans raised, List.forall_mem_cons.mpr ⟨both.2.trans raised, others⟩⟩

/-- A seed below every item is not kept. -/
theorem foldl_raiseTo_mem {items : List α} {seed : α} (some : items ≠ [])
    (above : ∀ item ∈ items, key seed < key item) :
    items.foldl (raiseTo key) seed ∈ items := by
  obtain ⟨member, largest⟩ := foldl_raiseTo key items seed
  obtain ⟨_, others⟩ := List.forall_mem_cons.mp largest
  rcases List.mem_cons.mp member with same | listed
  · obtain ⟨item, listed⟩ := List.exists_mem_of_ne_nil items some
    have larger := (above item listed).trans_le (others item listed)
    rw [same] at larger
    exact absurd larger (lt_irrefl _)
  · exact listed

end Raised

end

section Highest
variable {β : Type*} [LinearOrder β] {items others : List β} {seed bound : β}

theorem foldl_max_le_iff :
    items.foldl max seed ≤ bound ↔ seed ≤ bound ∧ ∀ item ∈ items, item ≤ bound := by
  induction items generalizing seed with
  | nil => simp
  | cons head rest ih => rw [List.foldl_cons, ih, max_le_iff, List.forall_mem_cons, and_assoc]

/-- A maximum is no lower where every item is met by another one. -/
theorem foldl_max_mono (met : ∀ item ∈ items, ∃ other ∈ others, item ≤ other) :
    items.foldl max seed ≤ others.foldl max seed := by
  obtain ⟨above, highest⟩ := foldl_max_le_iff.mp (le_refl (others.foldl max seed))
  refine foldl_max_le_iff.mpr ⟨above, fun item member => ?_⟩
  obtain ⟨other, listed, below⟩ := met item member
  exact below.trans (highest other listed)

end Highest

end FragglePacket.Lists
