import FragglePacket.Text.Float
import FragglePacket.Text.Integer

/-! The fields of a line however it is laid out, and decimal numbers among them. -/

namespace FragglePacket.Text

/-- `str::trim_matches`. -/
def trimMatches (drop : Char → Bool) (text : Str) : Str :=
  ((text.dropWhile drop).reverse.dropWhile drop).reverse

section Blanks
variable {before after text : Str} {c : Char}

private theorem fieldsFrom_append_blank (white : isWhitespace c = true) (begun : Str) :
    fieldsFrom begun (before ++ c :: after) = fieldsFrom begun before ++ fieldsFrom [] after := by
  induction before generalizing begun with
  | nil => simp [fieldsFrom, white]
  | cons d before ih =>
    rw [List.cons_append, fieldsFrom, fieldsFrom]
    split
    · rw [ih, List.append_assoc]
    · exact ih (begun ++ [d])

/-- A blank separates the fields before it from those after it. -/
theorem splitWhitespace_append_blank (before after : Str) (white : isWhitespace c = true) :
    splitWhitespace (before ++ c :: after) = splitWhitespace before ++ splitWhitespace after :=
  fieldsFrom_append_blank white []

theorem splitWhitespace_blank_append (white : ∀ d ∈ before, isWhitespace d = true) :
    splitWhitespace (before ++ after) = splitWhitespace after := by
  induction before with
  | nil => rfl
  | cons d before ih =>
    have first := splitWhitespace_append_blank [] (before ++ after) (white d List.mem_cons_self)
    exact first.trans (ih fun e member => white e (List.mem_cons_of_mem d member))

theorem splitWhitespace_append_blanks (white : ∀ d ∈ after, isWhitespace d = true) :
    splitWhitespace (before ++ after) = splitWhitespace before := by
  cases after with
  | nil => rw [List.append_nil]
  | cons d after =>
    have rest : splitWhitespace (after ++ []) = [] :=
      splitWhitespace_blank_append fun e member => white e (List.mem_cons_of_mem d member)
    rw [List.append_nil] at rest
    rw [splitWhitespace_append_blank _ _ (white d List.mem_cons_self), rest]
    exact List.append_nil _

private theorem takeWhile_white (text : Str) :
    ∀ d ∈ text.takeWhile isWhitespace, isWhitespace d = true :=
  fun _ member => List.mem_takeWhile_imp member

/-- A text is what trimming leaves of it, between blanks. -/
theorem exists_trim (text : Str) : ∃ front back, text = front ++ (trim text ++ back) ∧
    (∀ d ∈ front, isWhitespace d = true) ∧ ∀ d ∈ back, isWhitespace d = true := by
  refine ⟨text.takeWhile isWhitespace,
    ((text.dropWhile isWhitespace).reverse.takeWhile isWhitespace).reverse, ?_,
    takeWhile_white text, ?_⟩
  · rw [trim, ← List.reverse_append, List.takeWhile_append_dropWhile, List.reverse_reverse,
      List.takeWhile_append_dropWhile]
  · exact fun d member => takeWhile_white _ d (List.mem_reverse.mp member)

/-- Trimming a line keeps its fields. -/
theorem splitWhitespace_trim (text : Str) : splitWhitespace (trim text) = splitWhitespace text := by
  obtain ⟨front, back, laid, white, blank⟩ := exists_trim text
  conv_rhs => rw [laid, splitWhitespace_blank_append white, splitWhitespace_append_blanks blank]

theorem mem_fieldsFrom (begun : Str) :
    (∃ field ∈ fieldsFrom begun text, c ∈ field) ↔
      c ∈ begun ∨ c ∈ text ∧ isWhitespace c = false := by
  induction text generalizing begun with
  | nil =>
    cases begun with
    | nil => simp [fieldsFrom]
    | cons d begun => simp [fieldsFrom]
  | cons d text ih =>
    rw [fieldsFrom]
    cases white : isWhitespace d with
    | true =>
      have begins : (∃ field ∈ (if begun.isEmpty then [] else [begun]), c ∈ field) ↔ c ∈ begun := by
        cases begun <;> simp
      have other : c = d → isWhitespace c = true := fun same => same ▸ white
      simp only [if_true, List.mem_append, or_and_right, exists_or, begins, ih, List.mem_cons,
        List.not_mem_nil, false_or]
      cases solid : isWhitespace c with
      | true => simp
      | false =>
        have different : c ≠ d := fun same => by
          rw [other same] at solid
          cases solid
        simp [different]
    | false =>
      have other : c = d → isWhitespace c = false := fun same => same ▸ white
      simp only [Bool.false_eq_true, if_false, ih, List.mem_append, List.mem_cons, List.not_mem_nil,
        or_false, or_and_right]
      rw [or_assoc]
      exact or_congr_right (or_congr_left ⟨fun same => ⟨same, other same⟩, fun both => both.1⟩)

/-- The fields of a line hold its solid characters. -/
theorem mem_splitWhitespace :
    (∃ field ∈ splitWhitespace text, c ∈ field) ↔ c ∈ text ∧ isWhitespace c = false := by
  rw [splitWhitespace, mem_fieldsFrom]
  simp

theorem fieldsFrom_begun {begun : Str} (solid : begun ≠ []) :
    ∃ more fields, fieldsFrom begun text = (begun ++ more) :: fields := by
  induction text generalizing begun with
  | nil =>
    have some : begun.isEmpty = false := by simpa using solid
    exact ⟨[], [], by rw [fieldsFrom, some, List.append_nil]; rfl⟩
  | cons d text ih =>
    have some : begun.isEmpty = false := by simpa using solid
    rw [fieldsFrom]
    split
    · exact ⟨[], fieldsFrom [] text, by rw [some, List.append_nil]; rfl⟩
    · obtain ⟨more, fields, begins⟩ :=
        ih (List.append_ne_nil_of_right_ne_nil begun (List.cons_ne_nil d []))
      exact ⟨d :: more, fields, by rw [begins, List.append_assoc, List.singleton_append]⟩

/-- A text without a blank in front begins with its first field. -/
theorem splitWhitespace_cons (text : Str) (solid : isWhitespace c = false) :
    ∃ more fields, splitWhitespace (c :: text) = (c :: more) :: fields := by
  rw [splitWhitespace, fieldsFrom, if_neg (by simp [solid])]
  exact fieldsFrom_begun (List.cons_ne_nil c [])

/-- What trimming leaves begins with the first field. -/
theorem exists_trim_cons {more : Str} {fields : List Str}
    (begins : splitWhitespace text = (c :: more) :: fields) :
    ∃ rest, trim text = c :: rest := by
  rw [← splitWhitespace_trim] at begins
  cases trimmed : trim text with
  | nil =>
    rw [trimmed] at begins
    cases begins
  | cons d rest =>
    have solid : isWhitespace d = false := by
      have front : trim text <+: text.dropWhile isWhitespace := by
        rw [← List.reverse_suffix, trim, List.reverse_reverse]
        exact List.dropWhile_suffix isWhitespace
      obtain ⟨behind, laid⟩ := front
      have first := List.head?_dropWhile_not isWhitespace text
      rw [← laid, trimmed] at first
      exact first
    obtain ⟨tail, others, starts⟩ := splitWhitespace_cons rest solid
    rw [trimmed, starts] at begins
    exact ⟨rest, by rw [(List.cons.inj (List.cons.inj begins).1).1]⟩

/-- A token is the field of its text. -/
theorem splitWhitespace_of_token {token : Str} (field : Token token) :
    splitWhitespace token = [token] := by
  have behind := splitWhitespace_token field 0 []
  rw [List.append_nil] at behind
  have blank : splitWhitespace (token ++ List.replicate 1 ' ') = splitWhitespace token :=
    splitWhitespace_append_blanks (List.forall_mem_singleton.mpr (by decide))
  rw [← blank, behind]
  rfl

end Blanks

section TrimMatches
variable {drop : Char → Bool} {text : Str}

theorem trimMatches_eq_self (kept : ∀ c ∈ text, drop c = false) : trimMatches drop text = text := by
  have whole (piece : Str) (inPiece : ∀ c ∈ piece, drop c = false) : piece.dropWhile drop =
      piece := by
    cases piece with
    | nil => rfl
    | cons c piece => rw [List.dropWhile_cons_of_neg (by simp [inPiece c List.mem_cons_self])]
  rw [trimMatches, whole text kept, whole text.reverse fun c member =>
    kept c (List.mem_reverse.mp member),
    List.reverse_reverse]

/-- Only what is dropped is lost. -/
theorem mem_trimMatches {c : Char} (kept : drop c = false) :
    c ∈ trimMatches drop text ↔ c ∈ text := by
  have behind (piece : Str) : c ∈ piece.dropWhile drop ↔ c ∈ piece := by
    refine ⟨fun member => (List.dropWhile_sublist drop).subset member, fun member => ?_⟩
    rw [← List.takeWhile_append_dropWhile (p := drop) (l := piece)] at member
    refine (List.mem_append.mp member).resolve_left fun front => ?_
    rw [List.mem_takeWhile_imp front] at kept
    cases kept
  rw [trimMatches, List.mem_reverse, behind, List.mem_reverse, behind]

/-- What is wrapped around a text is taken off with what the text begins and ends with. -/
theorem trimMatches_wrapped {front back : Str} (opens : ∀ c ∈ front, drop c = true)
    (closes : ∀ c ∈ back, drop c = true) :
    trimMatches drop (front ++ (text ++ back)) = trimMatches drop text := by
  rw [trimMatches, List.dropWhile_append_of_pos opens, List.dropWhile_append, trimMatches]
  by_cases empty : (text.dropWhile drop).isEmpty = true
  · rw [if_pos empty, List.isEmpty_iff.mp empty, List.dropWhile_eq_nil_iff.mpr closes]
  · rw [if_neg empty, List.reverse_append,
      List.dropWhile_append_of_pos fun c member => closes c (List.mem_reverse.mp member)]

theorem trimMatches_solid {first last : Char} (begins : drop first = false)
    (ends : drop last = false) :
    trimMatches drop (first :: (text ++ [last])) = first :: (text ++ [last]) := by
  have back : (first :: (text ++ [last])).reverse = last :: (text.reverse ++ [first]) := by simp
  rw [trimMatches, List.dropWhile_cons_of_neg (by simp [begins]), back,
    List.dropWhile_cons_of_neg (by simp [ends]), ← back, List.reverse_reverse]

/-- Blanks at the end that are already off make no difference. -/
theorem trim_trimEnd (text : Str) : trim (trimEnd text) = trim text := by
  have laid : text = [] ++ (trimEnd text ++ (text.reverse.takeWhile isWhitespace).reverse) := by
    rw [List.nil_append, trimEnd, ← List.reverse_append, List.takeWhile_append_dropWhile,
      List.reverse_reverse]
  have white : ∀ c ∈ (text.reverse.takeWhile isWhitespace).reverse, isWhitespace c = true :=
    fun c member =>
      List.mem_takeWhile_imp (List.mem_reverse.mp member)
  have wrapped : trim ([] ++ (trimEnd text ++ (text.reverse.takeWhile isWhitespace).reverse)) =
      trim (trimEnd text) :=
    trimMatches_wrapped (fun c member => absurd member List.not_mem_nil) white
  rw [← laid] at wrapped
  exact wrapped.symm

/-- A trimmed text begins with no blank. -/
theorem dropWhile_of_trimmed (trimmed : trim text = text) : text.dropWhile isWhitespace = text := by
  have shorter : (trim text).length ≤ (text.dropWhile isWhitespace).length := by
    rw [trim, List.length_reverse]
    exact (List.dropWhile_sublist isWhitespace).length_le.trans (List.length_reverse).le
  rw [trimmed] at shorter
  exact (List.dropWhile_suffix isWhitespace).eq_of_length_le shorter

end TrimMatches

section Lines
variable {text : Str}

private theorem not_mem_linesFrom {begun : Str} (single : '\n' ∉ begun) :
    ∀ line ∈ linesFrom begun text, '\n' ∉ line := by
  induction text generalizing begun with
  | nil =>
    intro line listed
    rw [linesFrom] at listed
    split at listed
    · cases listed
    · exact List.mem_singleton.mp listed ▸ single
  | cons c text ih =>
    intro line listed
    rw [linesFrom] at listed
    split at listed
    · rcases List.mem_cons.mp listed with rfl | later
      · exact fun member => single ((stripCarriageReturn_begins begun).subset member)
      · exact ih List.not_mem_nil line later
    · next other =>
      refine ih (fun member => ?_) line listed
      rcases List.mem_append.mp member with before | last
      · exact single before
      · exact other (List.mem_singleton.mp last).symm

/-- A line of a text has no newline in it. -/
theorem newline_not_mem_line {line : Str} (listed : line ∈ lines text) : '\n' ∉ line :=
  not_mem_linesFrom List.not_mem_nil line listed

theorem not_mem_intercalate {c : Char} {separator : Str} (between : c ∉ separator)
    {pieces : List Str} (inside : ∀ piece ∈ pieces, c ∉ piece) :
    c ∉ separator.intercalate pieces := by
  induction pieces with
  | nil => exact List.not_mem_nil
  | cons piece rest ih =>
    have first := inside piece List.mem_cons_self
    have others := ih fun other member => inside other (List.mem_cons_of_mem piece member)
    cases rest with
    | nil => rwa [List.intercalate_singleton]
    | cons next rest =>
      rw [List.intercalate_cons_cons, List.mem_append, List.mem_append]
      exact fun member => member.elim (fun early => early.elim first between) others

theorem unlines_append (front back : List Str) :
    unlines (front ++ back) = unlines front ++ unlines back :=
  List.flatMap_append

theorem unlines_cons (line : Str) (rest : List Str) :
    unlines (line :: rest) = line ++ '\n' :: unlines rest := by
  rw [unlines, List.flatMap_cons, List.append_assoc, List.singleton_append]
  rfl

theorem unlines_singleton (line : Str) : unlines [line] = line ++ ['\n'] := unlines_cons line []

end Lines

section Contains
variable {text part : Str}

/-- `str::contains` finds an infix. -/
theorem contains_iff_infix :
    contains text part = true ↔ ∃ front back, text = front ++ (part ++ back) := by
  rw [contains, List.any_eq_true]
  constructor
  · rintro ⟨rest, suffix, begins⟩
    obtain ⟨front, rfl⟩ := (List.mem_tails _ _).mp suffix
    obtain ⟨back, rfl⟩ := List.isPrefixOf_iff_prefix.mp begins
    exact ⟨front, back, rfl⟩
  · rintro ⟨front, back, rfl⟩
    exact ⟨part ++ back, (List.mem_tails _ _).mpr ⟨front, rfl⟩,
      List.isPrefixOf_iff_prefix.mpr ⟨back, rfl⟩⟩

theorem contains_append_left (front : Str) (found : contains text part = true) :
    contains (front ++ text) part = true := by
  obtain ⟨before, after, rfl⟩ := contains_iff_infix.mp found
  exact contains_iff_infix.mpr ⟨front ++ before, after, by rw [List.append_assoc]⟩

theorem contains_append_right (back : Str) (found : contains text part = true) :
    contains (text ++ back) part = true := by
  obtain ⟨before, after, rfl⟩ := contains_iff_infix.mp found
  exact contains_iff_infix.mpr ⟨before, after ++ back, by rw [List.append_assoc, List.append_assoc]⟩

end Contains

section Separated
variable {separator : Char}

/-- The first piece of a text that ends behind a piece or goes on with a separator. -/
theorem splitOn_first {piece rest : Str} (whole : separator ∉ piece)
    (ends : rest = [] ∨ ∃ more, rest = separator :: more) :
    ∃ others, (piece ++ rest).splitOn separator = piece :: others := by
  rcases ends with rfl | ⟨more, rfl⟩
  · exact ⟨[], by rw [List.append_nil, List.splitOn_eq_singleton whole]⟩
  · exact ⟨more.splitOn separator, List.splitOn_append_cons_self_of_not_mem whole more⟩

/-- Pieces that are joined by a separator and a gap fall apart again, the gap in
front of each but the first. -/
theorem splitOn_joined {gap : Str} {piece : Str} {pieces : List Str} (whole : separator ∉ piece)
    (plain : separator ∉ gap) (others : ∀ other ∈ pieces, separator ∉ other) :
    ((separator :: gap).intercalate (piece :: pieces)).splitOn separator =
      piece :: pieces.map (gap ++ ·) := by
  induction pieces generalizing piece with
  | nil => rw [List.intercalate_singleton, List.splitOn_eq_singleton whole, List.map_nil]
  | cons next rest ih =>
    obtain ⟨here, later⟩ := List.forall_mem_cons.mp others
    have fronted : gap ++ (separator :: gap).intercalate (next :: rest) =
        (separator :: gap).intercalate ((gap ++ next) :: rest) := by
      cases rest with
      | nil => rw [List.intercalate_singleton, List.intercalate_singleton]
      | cons _ _ => simp only [List.intercalate_cons_cons, List.append_assoc]
    rw [List.intercalate_cons_cons, List.append_assoc, List.cons_append, fronted,
      List.splitOn_append_cons_self_of_not_mem whole, ih (List.not_mem_append plain here) later,
        List.map_cons]

end Separated

theorem not_mem_toDigits {c : Char} (other : isAsciiDigit c = false)
    (number : Nat) : c ∉ Nat.toDigits 10 number := by
  intro member
  rw [toDigits_isAsciiDigit number c member] at other
  cases other

/-- Digits, and more of them behind a point if there are any. -/
structure DecimalNumber where
  whole : Str
  fraction : Str
  written : whole ≠ []
  numeric : ∀ c ∈ whole ++ fraction, isAsciiDigit c = true

namespace DecimalNumber
variable (number : DecimalNumber)

def text : Str := number.whole ++ if number.fraction = [] then [] else '.' :: number.fraction

def value : ℚ := digitsValue 10 (number.whole ++ number.fraction) / 10 ^ number.fraction.length

theorem whole_numeric : ∀ c ∈ number.whole, isAsciiDigit c = true :=
  fun c member => number.numeric c (List.mem_append_left _ member)

theorem fraction_numeric : ∀ c ∈ number.fraction, isAsciiDigit c = true :=
  fun c member => number.numeric c (List.mem_append_right _ member)

theorem mem_text {c : Char} (member : c ∈ number.text) : isAsciiDigit c = true ∨ c = '.' := by
  rcases List.mem_append.mp member with whole | behind
  · exact Or.inl (number.whole_numeric c whole)
  · split at behind
    · cases behind
    · rcases List.mem_cons.mp behind with point | fraction
      · exact Or.inr point
      · exact Or.inl (number.fraction_numeric c fraction)

theorem text_ne_nil : number.text ≠ [] :=
  fun none => number.written (List.append_eq_nil_iff.mp none).1

theorem text_token : Token number.text := by
  refine ⟨number.text_ne_nil, fun c member => ?_⟩
  rcases number.mem_text member with digit | rfl
  · exact not_whitespace_of_digit digit
  · decide

/-- A character that is in no number. -/
theorem not_mem_text {c : Char} (other : isAsciiDigit c = false ∧ c ≠ '.') : c ∉ number.text := by
  intro member
  rcases number.mem_text member with digit | point
  · rw [other.1] at digit
    cases digit
  · exact other.2 point

/-- A point stands in the number exactly where it has a fraction. -/
theorem point_mem_text : '.' ∈ number.text ↔ number.fraction ≠ [] := by
  have none : '.' ∉ number.whole :=
    fun member => absurd (number.whole_numeric '.' member) (by decide)
  rw [text, List.mem_append, or_iff_right none]
  split
  · next empty => simp [empty]
  · next some => simp [some]

/-- There is one point at most. -/
theorem points_le_one : number.text.count '.' ≤ 1 := by
  have none (digits : Str) (numeric : ∀ c ∈ digits, isAsciiDigit c = true) : digits.count '.' = 0 :=
    List.count_eq_zero.mpr fun member => absurd (numeric '.' member) (by decide)
  rw [text, List.count_append, none number.whole number.whole_numeric]
  split
  · simp
  · simp [none number.fraction number.fraction_numeric]

theorem splitDigits_numeric {digits rest : Str} (numeric : ∀ c ∈ digits, isAsciiDigit c = true)
    (ends : rest = [] ∨ ∃ c more, rest = c :: more ∧ isAsciiDigit c = false) :
    splitDigits (digits ++ rest) = (digits, rest) := by
  have halts : rest.takeWhile isAsciiDigit = [] ∧ rest.dropWhile isAsciiDigit = rest := by
    rcases ends with rfl | ⟨c, more, rfl, other⟩
    · exact ⟨rfl, rfl⟩
    · simp [other]
  rw [splitDigits, List.takeWhile_append_of_pos numeric, List.dropWhile_append_of_pos numeric,
    halts.1, halts.2, List.append_nil]

theorem parseDecimal_text : parseDecimal number.text = some number.value := by
  have solid : (number.whole.isEmpty && number.fraction.isEmpty) = false := by
    simp [number.written]
  by_cases plain : number.fraction = []
  · have split : splitDigits number.text = (number.whole, []) := by
      rw [text, if_pos plain]
      exact splitDigits_numeric number.whole_numeric (Or.inl rfl)
    have empty : number.whole.isEmpty = false := by simp [number.written]
    simp [parseDecimal, split, empty, parseExponent, value, plain, powerOfTen]
  · have split : splitDigits number.text = (number.whole, '.' :: number.fraction) := by
      rw [text, if_neg plain]
      exact splitDigits_numeric number.whole_numeric (Or.inr ⟨'.', number.fraction, rfl, by decide⟩)
    have behind : splitDigits number.fraction = (number.fraction, []) := by
      have halves := splitDigits_numeric number.fraction_numeric (Or.inl rfl)
      rwa [List.append_nil] at halves
    have below : ¬ (0 : Int) ≤ 0 - (number.fraction.length : Int) := by
      have := List.length_pos_iff.mpr plain
      omega
    simp only [parseDecimal, split, behind, solid, Bool.false_eq_true, if_false, parseExponent,
      Option.map_some, powerOfTen, if_neg below, value]
    congr 1
    rw [zero_sub, neg_neg, Int.toNat_natCast, mul_one_div]

theorem toLower_digit {c : Char} (digit : isAsciiDigit c = true) : c.toLower = c := by
  have bounds : '0' ≤ c ∧ c ≤ '9' := by simpa [isAsciiDigit] using digit
  have upper : c.toNat ≤ 57 := UInt32.le_iff_toNat_le.mp (Char.le_def.mp bounds.2)
  refine dif_neg fun capital => ?_
  have lower : 65 ≤ c.toNat := UInt32.le_iff_toNat_le.mp capital.1
  omega

theorem parseF64_text : parseF64 number.text = some (.finite number.value) := by
  obtain ⟨first, rest, digits⟩ := List.exists_cons_of_ne_nil number.written
  have digit : isAsciiDigit first = true := number.whole_numeric first (digits ▸ List.mem_cons_self)
  obtain ⟨more, begins⟩ : ∃ more, number.text = first :: more :=
    ⟨_, by rw [text, digits, List.cons_append]⟩
  have unsigned : splitSign number.text = (false, number.text) := by
    rw [begins]
    unfold splitSign
    split
    · next same => exact absurd digit ((List.cons.inj same).1 ▸ by decide)
    · next same => exact absurd digit ((List.cons.inj same).1 ▸ by decide)
    · rfl
  have spelled (letter : Char) (tail : Str) (other : isAsciiDigit letter = false) :
      number.text.map Char.toLower ≠ letter :: tail := by
    rw [begins, List.map_cons, toLower_digit digit]
    intro same
    rw [(List.cons.inj same).1, other] at digit
    cases digit
  simp only [parseF64, unsigned, spelled 'i' _ (by decide), spelled 'n' _ (by decide), or_self,
    if_false, parseDecimal_text, Option.map_some, Bool.false_eq_true]

end DecimalNumber

end FragglePacket.Text
