import Mathlib.Data.List.TakeWhile
import FragglePacket.Text.Str

/-! Lines and whitespace-separated fields of a text. -/

namespace FragglePacket.Text

/-- `char::is_whitespace`. -/
def isWhitespace (c : Char) : Bool :=
  let n := c.toNat
  (9 ≤ n && n ≤ 13) || n == 0x20 || n == 0x85 || n == 0xA0 || n == 0x1680 ||
    (0x2000 ≤ n && n ≤ 0x200A) ||
    n == 0x2028 || n == 0x2029 || n == 0x202F || n == 0x205F || n == 0x3000

/-- The line without the carriage return at its end. -/
def stripCarriageReturn (line : Str) : Str :=
  if line.getLast? = some '\r' then line.dropLast else line

/-- `str::lines`, behind the characters of a line that has begun. -/
def linesFrom (begun : Str) : Str → List Str
  | [] => if begun.isEmpty then [] else [begun]
  | c :: rest =>
    if c = '\n' then stripCarriageReturn begun :: linesFrom [] rest
    else linesFrom (begun ++ [c]) rest

/-- `str::lines`. -/
def lines (text : Str) : List Str := linesFrom [] text

/-- `str::trim`. -/
def trim (text : Str) : Str :=
  ((text.dropWhile isWhitespace).reverse.dropWhile isWhitespace).reverse

/-- `str::split_whitespace`, behind the characters of a field that has begun. -/
def fieldsFrom (begun : Str) : Str → List Str
  | [] => if begun.isEmpty then [] else [begun]
  | c :: rest =>
    if isWhitespace c then (if begun.isEmpty then [] else [begun]) ++ fieldsFrom [] rest
    else fieldsFrom (begun ++ [c]) rest

/-- `str::split_whitespace`. -/
def splitWhitespace (text : Str) : List Str := fieldsFrom [] text

/-- `str::contains`. -/
def contains (text part : Str) : Bool := text.tails.any part.isPrefixOf

section Lines

private theorem linesFrom_line {line : Str} (single : '\n' ∉ line) (begun rest : Str) :
    linesFrom begun (line ++ '\n' :: rest) =
      stripCarriageReturn (begun ++ line) :: linesFrom [] rest := by
  induction line generalizing begun with
  | nil => simp [linesFrom]
  | cons c line ih =>
    have other : c ≠ '\n' := fun same => single (same ▸ List.mem_cons_self)
    rw [List.cons_append, linesFrom, if_neg other,
      ih (fun member => single (List.mem_cons_of_mem c member)), List.append_assoc,
      List.singleton_append]

/-- The lines as a text, each with its newline. -/
def unlines (content : List Str) : Str := content.flatMap (· ++ ['\n'])

theorem lines_unlines {content : List Str} (single : ∀ line ∈ content, '\n' ∉ line) :
    lines (unlines content) = content.map stripCarriageReturn := by
  induction content with
  | nil => rfl
  | cons line content ih =>
    have rest := ih fun other member => single other (List.mem_cons_of_mem line member)
    rw [unlines, List.flatMap_cons, List.append_assoc, List.singleton_append, lines,
      linesFrom_line (single line List.mem_cons_self), ← lines, ← unlines, rest, List.nil_append,
        List.map_cons]

theorem stripCarriageReturn_begins (line : Str) : stripCarriageReturn line <+: line := by
  unfold stripCarriageReturn
  split
  · exact List.dropLast_prefix line
  · exact List.prefix_refl line

theorem stripCarriageReturn_eq_self {line : Str} (plain : '\r' ∉ line) :
    stripCarriageReturn line = line :=
  if_neg fun last => plain (List.mem_of_getLast? last)

/-- Lines that hold neither of the characters that end a line are the lines of their text. -/
theorem lines_unlines_eq_self {content : List Str} (single : ∀ line ∈ content, '\n' ∉ line)
    (plain : ∀ line ∈ content, '\r' ∉ line) : lines (unlines content) = content := by
  rw [lines_unlines single]
  exact (List.map_congr_left fun line listed => stripCarriageReturn_eq_self
    (plain line listed)).trans (List.map_id content)

/-- Any lines are the lines of some text. -/
theorem exists_lines {content : List Str} (single : ∀ line ∈ content, '\n' ∉ line) :
    ∃ text, lines text = content := by
  have ended : ∀ line ∈ content.map (· ++ ['\r']), '\n' ∉ line := by
    intro line member
    obtain ⟨plain, inContent, rfl⟩ := List.mem_map.mp member
    simpa using single plain inContent
  have stripped : stripCarriageReturn ∘ (· ++ ['\r']) = id := by
    funext line
    simp [stripCarriageReturn]
  exact ⟨unlines (content.map (· ++ ['\r'])),
    by rw [lines_unlines ended, List.map_map, stripped, List.map_id]⟩

end Lines

section Trim

/-- `str::trim_end`. -/
def trimEnd (text : Str) : Str := (text.reverse.dropWhile isWhitespace).reverse

theorem trim_blank_append {blank : Str} (white : ∀ c ∈ blank, isWhitespace c = true) (text : Str) :
    trim (blank ++ text) = trim text := by
  rw [trim, List.dropWhile_append_of_pos white, trim]

theorem mem_of_mem_trim {text : Str} {c : Char} (member : c ∈ trim text) : c ∈ text := by
  have inRest := (List.dropWhile_sublist isWhitespace).subset (List.mem_reverse.mp member)
  exact (List.dropWhile_sublist isWhitespace).subset (List.mem_reverse.mp inRest)

/-- Trimming takes nothing off but blanks. -/
theorem mem_trim {text : Str} {c : Char} (member : c ∈ text) (solid : isWhitespace c = false) :
    c ∈ trim text := by
  have kept (piece : Str) (inPiece : c ∈ piece) : c ∈ piece.dropWhile isWhitespace := by
    rw [← List.takeWhile_append_dropWhile (p := isWhitespace) (l := piece)] at inPiece
    rcases List.mem_append.mp inPiece with blank | rest
    · rw [List.mem_takeWhile_imp blank] at solid
      cases solid
    · exact rest
  exact List.mem_reverse.mpr (kept _ (List.mem_reverse.mpr (kept text member)))

/-- Nothing is taken off a front that neither begins nor ends with a blank. -/
theorem trim_solid_append {front : Str} (solid : front ≠ [])
    (begins : front.dropWhile isWhitespace = front)
    (ends : front.reverse.dropWhile isWhitespace = front.reverse) (rest : Str) :
    trim (front ++ rest) = front ++ trimEnd rest := by
  have start : (front ++ rest).dropWhile isWhitespace = front ++ rest := by
    rw [List.dropWhile_append, begins, if_neg (by simpa using solid)]
  rw [trim, start, trimEnd, List.reverse_append, List.dropWhile_append]
  by_cases blank : (rest.reverse.dropWhile isWhitespace).isEmpty = true
  · rw [if_pos blank, ends, List.reverse_reverse, List.isEmpty_iff.mp blank, List.reverse_nil,
      List.append_nil]
  · rw [if_neg blank, List.reverse_append, List.reverse_reverse]

end Trim

section Columns

/-- A field of a line: not empty, and with no blank in it. -/
def Token (field : Str) : Prop := field ≠ [] ∧ ∀ c ∈ field, isWhitespace c = false

instance : DecidablePred Token :=
  fun field => @instDecidableAnd (field ≠ []) _ inferInstance (List.decidableBAll _ field)

/-- A cell in a column of that width, and the space between columns. -/
def justified (width : Nat) (cell : Str) : Str :=
  cell ++ List.replicate (width - cell.length + 1) ' '

theorem splitWhitespace_blanks (count : Nat) (rest : Str) :
    splitWhitespace (List.replicate count ' ' ++ rest) = splitWhitespace rest := by
  induction count with
  | zero => rfl
  | succ count ih => exact ih

private theorem fieldsFrom_token {token : Str} (solid : ∀ c ∈ token, isWhitespace c = false)
    (begun rest : Str) :
    fieldsFrom begun (token ++ rest) = fieldsFrom (begun ++ token) rest := by
  induction token generalizing begun with
  | nil => simp
  | cons c token ih =>
    have other : ∀ d ∈ token, isWhitespace d = false :=
      fun d member => solid d (List.mem_cons_of_mem c member)
    rw [List.cons_append, fieldsFrom, if_neg (by simp [solid c List.mem_cons_self]), ih other]
    simp

theorem splitWhitespace_token {token : Str} (field : Token token) (count : Nat) (rest : Str) :
    splitWhitespace (token ++ (List.replicate (count + 1) ' ' ++ rest)) =
      token :: splitWhitespace rest := by
  have blank : isWhitespace ' ' = true := by decide
  have begun : token.isEmpty = false := by simpa using field.1
  rw [splitWhitespace, fieldsFrom_token field.2, List.replicate_succ, List.cons_append,
    List.nil_append, fieldsFrom, if_pos blank, begun]
  exact congrArg (token :: ·) (splitWhitespace_blanks count rest)

/-- The fields of a line are the cells that have a text. -/
theorem splitWhitespace_justified (width : Nat) {cells : List Str}
    (proper : ∀ cell ∈ cells, cell = [] ∨ Token cell) :
    splitWhitespace (cells.flatMap (justified width)) = cells.filter fun cell => !cell.isEmpty := by
  induction cells with
  | nil => rfl
  | cons cell cells ih =>
    have rest := ih fun other member => proper other (List.mem_cons_of_mem cell member)
    rw [List.flatMap_cons, justified, List.append_assoc]
    rcases proper cell List.mem_cons_self with empty | token
    · rw [empty, List.nil_append, splitWhitespace_blanks, rest]
      rfl
    · have kept : (!cell.isEmpty) = true := by simpa using token.1
      rw [splitWhitespace_token token, rest, List.filter_cons, if_pos kept]

/-- The only blank of a line in columns is the space. -/
theorem not_mem_justified {width : Nat} {cells : List Str}
    (proper : ∀ cell ∈ cells, cell = [] ∨ Token cell) {c : Char} (white : isWhitespace c = true)
    (other : c ≠ ' ') : c ∉ cells.flatMap (justified width) := by
  intro member
  obtain ⟨cell, inCells, inCell⟩ := List.mem_flatMap.mp member
  rcases List.mem_append.mp inCell with own | blank
  · rcases proper cell inCells with rfl | token
    · cases own
    · rw [token.2 c own] at white
      cases white
  · exact other (List.eq_of_mem_replicate blank)

/-- Lines in columns are the lines of their text. -/
theorem lines_justified {width : Nat} {rows : List (List Str)}
    (proper : ∀ cells ∈ rows, ∀ cell ∈ cells, cell = [] ∨ Token cell) :
    lines (unlines (rows.map fun cells => cells.flatMap (justified width))) =
      rows.map fun cells => cells.flatMap (justified width) := by
  have absent {c : Char} (white : isWhitespace c = true) (other : c ≠ ' ') :
      ∀ line ∈ rows.map (fun cells => cells.flatMap (justified width)), c ∉ line := by
    intro line member
    obtain ⟨cells, inRows, rfl⟩ := List.mem_map.mp member
    exact not_mem_justified (proper cells inRows) white other
  exact lines_unlines_eq_self (absent (by decide) (by decide)) (absent (by decide) (by decide))

end Columns

end FragglePacket.Text
