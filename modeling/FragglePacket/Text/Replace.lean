import FragglePacket.Text.Script

/-! Replacement of all matches of a pattern, as `str::replace` does it: matches
are taken from left to right and never overlap. -/

namespace FragglePacket.Text

universe u
variable {α : Type u} [DecidableEq α]

/-- The scan with the number of elements of the current match still to skip. -/
def replaceLoop (pattern new : List α) : Nat → List α → List (Edit α)
  | _, [] => []
  | skip + 1, _ :: rest => replaceLoop pattern new skip rest
  | 0, item :: rest =>
    if pattern.isPrefixOf (item :: rest) then
      .swap pattern new :: replaceLoop pattern new (pattern.length - 1) rest
    else .keep item :: replaceLoop pattern new 0 rest

def replaceScript (pattern new text : List α) : List (Edit α) := replaceLoop pattern new 0 text

/-- `str::replace` for a nonempty pattern. -/
def replace (pattern new text : List α) : List α := target (replaceScript pattern new text)

section Replace
variable {pattern new : List α}

private theorem replaceLoop_skip (skipped rest : List α) :
    replaceLoop pattern new skipped.length (skipped ++ rest) = replaceLoop pattern new 0 rest := by
  induction skipped with
  | nil => rfl
  | cons item skipped ih => simpa [replaceLoop] using ih

theorem replaceScript_match (nonempty : pattern ≠ []) (rest : List α) :
    replaceScript pattern new (pattern ++ rest) =
      .swap pattern new :: replaceScript pattern new rest := by
  obtain ⟨item, items, rfl⟩ := List.exists_cons_of_ne_nil nonempty
  have here : (item :: items).isPrefixOf (item :: (items ++ rest)) = true := by simp
  simp only [replaceScript, List.cons_append, replaceLoop, here, ↓reduceIte, List.length_cons,
    Nat.add_sub_cancel]
  rw [replaceLoop_skip]

theorem replaceScript_skip {item : α} {rest : List α} (unmatched : ¬ pattern <+: item :: rest) :
    replaceScript pattern new (item :: rest) = .keep item :: replaceScript pattern new rest := by
  have here : pattern.isPrefixOf (item :: rest) = false := by
    simpa [← List.isPrefixOf_iff_prefix] using unmatched
  simp [replaceScript, replaceLoop, here]

@[simp] theorem replaceScript_nil : replaceScript pattern new [] = [] := rfl

/-- A text is a sequence of matches and elements at which no match begins. -/
@[elab_as_elim]
theorem replace_induction (pattern : List α) (nonempty : pattern ≠ []) {motive : List α → Prop}
    (nil : motive [])
    (found : ∀ rest, motive rest → motive (pattern ++ rest))
    (single : ∀ item rest, ¬ pattern <+: item :: rest → motive rest → motive (item :: rest))
    (text : List α) : motive text := by
  induction length : text.length using Nat.strong_induction_on generalizing text with
  | _ size ih =>
    cases text with
    | nil => exact nil
    | cons item rest =>
      by_cases here : pattern <+: item :: rest
      · obtain ⟨after, same⟩ := here
        have positive := List.length_pos_iff.mpr nonempty
        have lengths := congrArg List.length same
        rw [List.length_append] at lengths
        rw [← same]
        exact found after (ih after.length (by omega) after rfl)
      · exact single item rest here (ih rest.length
          (by rw [← length, List.length_cons]; omega) rest rfl)

theorem source_replaceScript (new : List α) (nonempty : pattern ≠ []) (text : List α) :
    source (replaceScript pattern new text) = text := by
  induction text using replace_induction pattern nonempty with
  | nil => rfl
  | found rest ih => simp [replaceScript_match nonempty, ih]
  | single item rest unmatched ih => simp [replaceScript_skip unmatched, ih]

theorem replaceScript_swap {text : List α} (nonempty : pattern ≠ []) {old inserted : List α}
    (member : Edit.swap old inserted ∈ replaceScript pattern new text) :
    old = pattern ∧ inserted = new := by
  induction text using replace_induction pattern nonempty with
  | nil => simp at member
  | found rest ih =>
    rw [replaceScript_match nonempty, List.mem_cons] at member
    rcases member with same | later
    · exact Edit.swap.inj same
    · exact ih later
  | single item rest unmatched ih =>
    rw [replaceScript_skip unmatched, List.mem_cons] at member
    rcases member with same | later
    · cases same
    · exact ih later

/-- The scan starts afresh behind every edit it made. -/
theorem replaceScript_rest {text : List α} (nonempty : pattern ≠ []) {front back : List (Edit α)}
    (split : replaceScript pattern new text = front ++ back) :
    back = replaceScript pattern new (source back) := by
  induction text using replace_induction pattern nonempty generalizing front with
  | nil =>
    have empty : back = [] := (List.append_eq_nil_iff.mp split.symm).2
    simp [empty]
  | found rest ih =>
    cases front with
    | nil => rw [← split.trans (List.nil_append back), source_replaceScript new nonempty]
    | cons edit front =>
      rw [replaceScript_match nonempty, List.cons_append] at split
      exact ih (List.cons.inj split).2
  | single item rest unmatched ih =>
    cases front with
    | nil => rw [← split.trans (List.nil_append back), source_replaceScript new nonempty]
    | cons edit front =>
      rw [replaceScript_skip unmatched, List.cons_append] at split
      exact ih (List.cons.inj split).2

/-- The scan copies no match. -/
private theorem keeps_pattern_absent (nonempty : pattern ≠ []) {text : List α}
    {front back : List (Edit α)}
    (split : replaceScript pattern new text = front ++ (keeps pattern ++ back)) : False := by
  have fresh := replaceScript_rest nonempty split
  rw [source_append, source_keeps, replaceScript_match nonempty] at fresh
  obtain ⟨item, items, same⟩ := List.exists_cons_of_ne_nil nonempty
  rw [same] at fresh
  simp at fresh

/-- The scan swaps nothing exactly when the pattern does not occur. -/
theorem replaceScript_quiet_iff (nonempty : pattern ≠ []) (text : List α) :
    (∀ old inserted, Edit.swap old inserted ∉ replaceScript pattern new text) ↔
      ¬ pattern <:+: text := by
  constructor
  · intro quiet ⟨before, after, found⟩
    have copied := eq_keeps_of_no_swap quiet
    rw [source_replaceScript new nonempty] at copied
    have parts : keeps text = keeps before ++ (keeps pattern ++ keeps after) := by simp [← found]
    exact keeps_pattern_absent nonempty (copied.trans parts)
  · intro absent old inserted member
    obtain ⟨rfl, rfl⟩ := replaceScript_swap nonempty member
    obtain ⟨front, back, split⟩ := List.append_of_mem member
    refine absent ⟨source front, source back, ?_⟩
    rw [← source_replaceScript inserted nonempty text, split]
    simp

end Replace

end FragglePacket.Text
