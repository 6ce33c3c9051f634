import FragglePacket.Text.Str

/-! Lines with their newlines, and slices of a text at a byte offset. -/

namespace FragglePacket.Text

/-- `str::split_inclusive` at newlines. -/
def splitInclusive : Str → List Str
  | [] => []
  | c :: rest =>
    if c = '\n' then [c] :: splitInclusive rest
    else
      match splitInclusive rest with
      | [] => [[c]]
      | line :: more => (c :: line) :: more

/-- The slice from a byte offset on, which must lie between two characters. -/
def sliceFrom : Str → Nat → Option Str
  | text, 0 => some text
  | [], _ + 1 => none
  | c :: rest, offset + 1 =>
    if c.utf8Size ≤ offset + 1 then sliceFrom rest (offset + 1 - c.utf8Size) else none

theorem sliceFrom_byteLen (front back : Str) :
    sliceFrom (front ++ back) (byteLen front) = some back := by
  induction front with
  | nil =>
    cases back <;> rfl
  | cons c rest ih =>
    have positive := c.utf8Size_pos
    obtain ⟨offset, size⟩ : ∃ offset, byteLen (c :: rest) = offset + 1 :=
      ⟨byteLen (c :: rest) - 1, by rw [byteLen_cons]; omega⟩
    have left_over : offset + 1 - c.utf8Size = byteLen rest := by
      rw [byteLen_cons] at size
      omega
    have enough : c.utf8Size ≤ offset + 1 := by
      rw [byteLen_cons] at size
      omega
    rw [size, List.cons_append, sliceFrom, if_pos enough, left_over, ih]

@[simp] theorem splitInclusive_newline (rest : Str) :
    splitInclusive ('\n' :: rest) = ['\n'] :: splitInclusive rest := rfl

theorem splitInclusive_cons {c : Char} (other : c ≠ '\n') (rest : Str) :
    splitInclusive (c :: rest) =
      match splitInclusive rest with
      | [] => [[c]]
      | line :: more => (c :: line) :: more := if_neg other

theorem splitInclusive_flatten (text : Str) : (splitInclusive text).flatten = text := by
  induction text with
  | nil => rfl
  | cons c rest ih =>
    by_cases newline : c = '\n'
    · rw [splitInclusive, if_pos newline, List.flatten_cons, ih]
      rfl
    · rw [splitInclusive_cons newline]
      cases split : splitInclusive rest with
      | nil =>
        rw [split] at ih
        rw [← ih]
        rfl
      | cons line more =>
        rw [split] at ih
        rw [← ih]
        rfl

/-- A text without newlines goes in front of the first line behind it. -/
theorem splitInclusive_append_plain {front : Str} (plain : '\n' ∉ front) {rest line : Str}
    {more : List Str} (split : splitInclusive rest = line :: more) :
    splitInclusive (front ++ rest) = (front ++ line) :: more := by
  induction front with
  | nil => exact split
  | cons c front ih =>
    rw [List.mem_cons, not_or] at plain
    rw [List.cons_append, splitInclusive_cons (Ne.symm plain.1), ih plain.2]
    rfl

/-- Text that ends with a newline has lines of its own. -/
theorem splitInclusive_append {front : Str} (ends : front = [] ∨ front.getLast? = some '\n')
    (rest : Str) :
    splitInclusive (front ++ rest) = splitInclusive front ++ splitInclusive rest := by
  induction front with
  | nil => rfl
  | cons c front ih =>
    have last := ends.resolve_left (List.cons_ne_nil c front)
    by_cases newline : c = '\n'
    · subst newline
      cases front with
      | nil => rfl
      | cons next front =>
        rw [List.getLast?_cons_cons] at last
        rw [List.cons_append, splitInclusive_newline, ih (.inr last), splitInclusive_newline,
          List.cons_append]
    · cases front with
      | nil => exact absurd (Option.some.inj last) newline
      | cons next front =>
        rw [List.getLast?_cons_cons] at last
        have tail := ih (.inr last)
        rw [List.cons_append, splitInclusive_cons newline, tail, splitInclusive_cons newline]
        cases split : splitInclusive (next :: front) with
        | nil =>
          have whole := splitInclusive_flatten (next :: front)
          rw [split] at whole
          cases whole
        | cons line more => rfl

end FragglePacket.Text
