import Mathlib.Data.List.DropRight
import FragglePacket.Text.Fields

/-! Patterns in a text: what follows the first match, what matches at the end leave, and the parts
in front of a mark and behind it. -/

namespace FragglePacket.Text

/-- What follows the first match of a pattern, as `str::find` finds it. -/
def afterFirst (pattern : Str) : Str → Option Str
  | [] => if pattern.isEmpty then some [] else none
  | c :: rest =>
    if pattern.isPrefixOf (c :: rest) then some ((c :: rest).drop pattern.length)
    else afterFirst pattern rest

/-- `str::strip_prefix`. -/
def stripPrefix (pattern text : Str) : Option Str :=
  if pattern.isPrefixOf text then some (text.drop pattern.length) else none

/-- The matches in front dropped, with the characters of the current match still to skip. -/
def dropMatches (pattern : Str) : Nat → Str → Str
  | _, [] => []
  | skip + 1, _ :: rest => dropMatches pattern skip rest
  | 0, c :: rest =>
    if pattern.isPrefixOf (c :: rest) then dropMatches pattern (pattern.length - 1) rest
    else c :: rest

/-- `str::trim_end_matches` of a string. -/
def trimEndMatches (pattern text : Str) : Str :=
  (dropMatches pattern.reverse 0 text.reverse).reverse

/-- `str::trim_end_matches` of a character. -/
def trimEndMark (mark : Char) (text : Str) : Str := text.rdropWhile (· == mark)

/-- `str::trim_matches` of a character. -/
def trimMark (mark : Char) (text : Str) : Str := trimEndMark mark (text.dropWhile (· == mark))

/-- `str::splitn(2, mark)`: what is in front of the mark, and what is behind it. -/
def splitOnce (mark : Char) : Str → Str × Option Str
  | [] => ([], none)
  | c :: rest =>
    if c = mark then ([], some rest)
    else
      let (front, behind) := splitOnce mark rest
      (c :: front, behind)

/-- `str::eq_ignore_ascii_case`. -/
def eqIgnoreAsciiCase (first second : Str) : Bool :=
  first.map Char.toLower == second.map Char.toLower

theorem stripPrefix_eq_none_iff {pattern text : Str} :
    stripPrefix pattern text = none ↔ ¬ pattern <+: text := by
  rw [stripPrefix, ← List.isPrefixOf_iff_prefix]
  split
  · rename_i found
    simp [found]
  · rename_i unmatched
    exact iff_of_true rfl unmatched

theorem stripPrefix_append (pattern rest : Str) :
    stripPrefix pattern (pattern ++ rest) = some rest := by
  rw [stripPrefix, if_pos (List.isPrefixOf_iff_prefix.mpr (List.prefix_append pattern rest)),
    List.drop_left]

/-- The first mark is the one behind what holds none. -/
theorem splitOnce_append {mark : Char} {front : Str} (absent : mark ∉ front) (rest : Str) :
    splitOnce mark (front ++ mark :: rest) = (front, some rest) := by
  induction front with
  | nil => exact if_pos rfl
  | cons c front ih =>
    have other : c ≠ mark := fun same => absent (same ▸ List.mem_cons_self)
    rw [List.cons_append, splitOnce, if_neg other, ih fun member =>
      absent (List.mem_cons_of_mem c member)]

section Apart

/-- No match of the pattern begins in the text, whatever follows it. -/
def Apart (pattern text : Str) : Prop :=
  ∀ tail ∈ text.tails, tail ≠ [] → ¬ pattern <+: tail ∧ ¬ tail <+: pattern

instance (pattern text : Str) : Decidable (Apart pattern text) :=
  inferInstanceAs
    (Decidable (∀ tail ∈ text.tails, tail ≠ [] → ¬ pattern <+: tail ∧ ¬ tail <+: pattern))

theorem Apart.tail {pattern text : Str} {c : Char} (apart : Apart pattern (c :: text)) :
    Apart pattern text := by
  intro tail member
  have suffix := ((List.mem_tails _ _).mp member).trans (List.suffix_cons c text)
  exact apart tail ((List.mem_tails _ _).mpr suffix)

theorem apart_of_not_mem {pattern text : Str} {c : Char} (absent : c ∉ text) :
    Apart (c :: pattern) text := by
  intro tail member solid
  obtain ⟨first, rest, rfl⟩ := List.exists_cons_of_ne_nil solid
  have inText : first ∈ text := ((List.mem_tails _ _).mp member).subset List.mem_cons_self
  have differ : c ≠ first := fun same => absent (same ▸ inText)
  simp [List.cons_prefix_cons, differ, differ.symm]

theorem afterFirst_append {pattern text : Str} (apart : Apart pattern text) (rest : Str) :
    afterFirst pattern (text ++ rest) = afterFirst pattern rest := by
  induction text with
  | nil => rfl
  | cons c text ih =>
    obtain ⟨notBelow, notAbove⟩ := apart (c :: text) (by simp) (List.cons_ne_nil c text)
    have unmatched : ¬ pattern <+: c :: (text ++ rest) := by
      intro found
      rcases List.prefix_or_prefix_of_prefix found
        (List.prefix_append (c :: text) rest) with below | above
      · exact notBelow below
      · exact notAbove above
    rw [List.cons_append, afterFirst,
      if_neg (fun here => unmatched (List.isPrefixOf_iff_prefix.mp here))]
    exact ih apart.tail

end Apart

end FragglePacket.Text
