import Mathlib.Algebra.GroupWithZero.Nat
import Mathlib.Data.List.Infix

/-! Character strings, with the character classes and string functions of the
standard library that text processing rests on. -/

namespace FragglePacket.Text

/-- A string as its characters. -/
abbrev Str := List Char

/-- A literal unfolds to its characters, so what they hold is seen without decoding the text. -/
theorem not_mem_literal {c : Char} {chars : List Char} (absent : c ∉ chars) :
    c ∉ (String.ofList chars).toList := by
  rwa [String.toList_ofList]

theorem head?_literal {c : Char} {chars : List Char} (other : chars.head? ≠ some c) :
    (String.ofList chars).toList.head? ≠ some c := by
  rwa [String.toList_ofList]

theorem head?_literal_eq {c : Char} {chars : List Char} (begins : chars.head? = some c) :
    (String.ofList chars).toList.head? = some c := by
  rwa [String.toList_ofList]

/-- `str::len`: the length of the UTF-8 encoding. -/
def byteLen (text : Str) : Nat := (text.map Char.utf8Size).sum

/-- `char::is_ascii_digit`. -/
def isAsciiDigit (c : Char) : Bool := '0' ≤ c && c ≤ '9'

/-- `char::is_ascii_hexdigit`. -/
def isAsciiHexdigit (c : Char) : Bool :=
  isAsciiDigit c || ('a' ≤ c && c ≤ 'f') || ('A' ≤ c && c ≤ 'F')

/-- `char::to_digit`. -/
def toDigit (radix : Nat) (c : Char) : Option Nat :=
  let value :=
    if isAsciiDigit c then some (c.toNat - '0'.toNat)
    else if 'a' ≤ c && c ≤ 'z' then some (c.toNat - 'a'.toNat + 10)
    else if 'A' ≤ c && c ≤ 'Z' then some (c.toNat - 'A'.toNat + 10)
    else none
  value.filter (· < radix)

/-- The value of a digit string, most significant digit first. -/
def digitsValue (radix : Nat) (digits : Str) : Nat :=
  digits.foldl (fun value c => value * radix + (toDigit radix c).getD 0) 0

theorem isAsciiHexdigit_of_digit {c : Char} (digit : isAsciiDigit c = true) :
    isAsciiHexdigit c = true := by
  simp [isAsciiHexdigit, digit]

theorem utf8Size_of_hexdigit {c : Char} (hex : isAsciiHexdigit c = true) : c.utf8Size = 1 := by
  have ascii (bound : Char) (small : bound.val ≤ 127) (below : c ≤ bound) : c.utf8Size = 1 :=
    Char.utf8Size_eq_one_iff.mpr (UInt32.le_trans (Char.le_def.mp below) small)
  simp only [isAsciiHexdigit, isAsciiDigit, Bool.or_eq_true, Bool.and_eq_true,
    decide_eq_true_eq] at hex
  rcases hex with (digit | lower) | upper
  · exact ascii '9' (by decide) digit.2
  · exact ascii 'f' (by decide) lower.2
  · exact ascii 'F' (by decide) upper.2

theorem byteLen_hexdigits {text : Str} (hex : ∀ c ∈ text, isAsciiHexdigit c = true) :
    byteLen text = text.length := by
  induction text with
  | nil => rfl
  | cons c rest ih =>
    have tail := ih fun other member => hex other (List.mem_cons_of_mem _ member)
    have head := utf8Size_of_hexdigit (hex c List.mem_cons_self)
    simp only [byteLen, List.map_cons, List.sum_cons, List.length_cons] at tail ⊢
    omega

theorem byteLen_append (left right : Str) :
    byteLen (left ++ right) = byteLen left + byteLen right := by
  simp [byteLen]

theorem byteLen_cons (c : Char) (rest : Str) :
    byteLen (c :: rest) = c.utf8Size + byteLen rest := rfl

section Decimal

theorem toDigits_isAsciiDigit (number : Nat) :
    ∀ c ∈ Nat.toDigits 10 number, isAsciiDigit c = true := by
  intro c member
  have digit : c.isDigit = true :=
    Nat.isDigit_of_mem_toDigits (show 0 < 10 by omega) (Nat.le_refl 10) member
  simpa [isAsciiDigit, Char.isDigit, Char.le_def] using digit

theorem toDigit_of_digit {c : Char} (digit : isAsciiDigit c = true) :
    toDigit 10 c = some (c.toNat - '0'.toNat) := by
  have bounds : '0' ≤ c ∧ c ≤ '9' := by simpa [isAsciiDigit] using digit
  have upper : c.toNat ≤ 57 := UInt32.le_iff_toNat_le.mp (Char.le_def.mp bounds.2)
  have small : c.toNat - '0'.toNat < 10 := by
    change c.toNat - 48 < 10
    omega
  simp only [toDigit, digit, if_true, Option.filter_some, decide_eq_true small]

/-- The digits of a number are read back as the number. -/
theorem digitsValue_toDigits (number : Nat) : digitsValue 10 (Nat.toDigits 10 number) = number := by
  have folds (digits : Str) (numeric : ∀ c ∈ digits, isAsciiDigit c = true) (start : Nat) :
      digits.foldl (fun value c => value * 10 + (toDigit 10 c).getD 0) start =
        Nat.ofDigitChars 10 digits start := by
    induction digits generalizing start with
    | nil => rfl
    | cons c rest ih =>
      rw [List.foldl_cons, Nat.ofDigitChars_cons, toDigit_of_digit (numeric c List.mem_cons_self),
        Option.getD_some, Nat.mul_comm start]
      exact ih (fun other member => numeric other (List.mem_cons_of_mem c member)) _
  rw [digitsValue, folds _ (toDigits_isAsciiDigit number), Nat.ofDigitChars_ten_toDigits]

theorem toDigits_injective : Function.Injective (Nat.toDigits 10) :=
  Function.LeftInverse.injective digitsValue_toDigits

theorem toString_injective : Function.Injective (toString : Nat → String) := fun _ _ same =>
  toDigits_injective (String.ofList_injective same)

end Decimal

end FragglePacket.Text
