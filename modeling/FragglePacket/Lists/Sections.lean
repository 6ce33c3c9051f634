import Mathlib.Data.List.Induction

/-! A list cut into sections by headers, some of which open their section. -/

namespace FragglePacket.Lists

section Sections
variable {α : Type*} (isHeader opens : α → Bool)

/-- The last header among the items opens its section. -/
def sectionOpen (before : List α) : Bool := (before.reverse.find? isHeader).any opens

variable {isHeader opens} {before later : List α} {item : α}

@[simp] theorem sectionOpen_nil : sectionOpen isHeader opens [] = false := rfl

theorem sectionOpen_header (header : isHeader item = true) :
    sectionOpen isHeader opens (before ++ [item]) = opens item := by
  simp [sectionOpen, header]

theorem sectionOpen_other (other : isHeader item = false) :
    sectionOpen isHeader opens (before ++ [item]) = sectionOpen isHeader opens before := by
  simp [sectionOpen, other]

/-- Items that are no headers leave the section as it is. -/
theorem sectionOpen_append (plain : ∀ item ∈ later, isHeader item = false) :
    sectionOpen isHeader opens (before ++ later) = sectionOpen isHeader opens before := by
  induction later using List.reverseRecOn with
  | nil => rw [List.append_nil]
  | append_singleton later item ih =>
    have last := plain item (by simp)
    rw [← List.append_assoc, sectionOpen_other last]
    exact ih fun other member => plain other (List.mem_append_left _ member)

/-- Behind a header, and with none since, the section is the header's. -/
theorem sectionOpen_behind (header : isHeader item = true)
    (plain : ∀ item ∈ later, isHeader item = false) :
    sectionOpen isHeader opens (before ++ item :: later) = opens item := by
  rw [List.append_cons, sectionOpen_append plain, sectionOpen_header header]

/-- There is no header, or a last one. -/
theorem exists_last_header (isHeader : α → Bool) (items : List α) :
    (∀ item ∈ items, isHeader item = false) ∨
      ∃ before header later, items = before ++ header :: later ∧ isHeader header = true ∧
        ∀ item ∈ later, isHeader item = false := by
  induction items using List.reverseRecOn with
  | nil => exact .inl (by simp)
  | append_singleton items item ih =>
    cases last : isHeader item with
    | true => exact .inr ⟨items, item, [], rfl, last, by simp⟩
    | false =>
      rcases ih with none | ⟨before, header, later, rfl, found, plain⟩
      · refine .inl fun other member => ?_
        rcases List.mem_append.mp member with earlier | here
        · exact none other earlier
        · rw [List.mem_singleton.mp here]
          exact last
      · refine .inr ⟨before, header, later ++ [item], by simp, found, fun other member => ?_⟩
        rcases List.mem_append.mp member with earlier | here
        · exact plain other earlier
        · rw [List.mem_singleton.mp here]
          exact last

end Sections

end FragglePacket.Lists
