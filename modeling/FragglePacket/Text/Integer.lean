import FragglePacket.Text.Fields
import FragglePacket.Text.Float

/-! Integers as they are read and written. -/

namespace FragglePacket.Text

/-- The number behind a sign. -/
def parseDigits (digits : Str) : Option Nat :=
  if digits.isEmpty || !digits.all isAsciiDigit then none else some (digitsValue 10 digits)

/-- `str::parse` of the unsigned type with that many values. A sign may be a plus. -/
def parseUnsigned (size : Nat) (text : Str) : Option Nat :=
  let digits :=
    match text with
    | '+' :: rest => rest
    | _ => text
  (parseDigits digits).filter fun value => decide (value < size)

/-- `str::parse::<u64>`. -/
def parseU64 (text : Str) : Option UInt64 := (parseUnsigned (2 ^ 64) text).map UInt64.ofNat

/-- `str::parse::<u32>`. -/
def parseU32 (text : Str) : Option UInt32 := (parseUnsigned (2 ^ 32) text).map UInt32.ofNat

/-- `str::parse::<i32>`. -/
def parseI32 (text : Str) : Option Int32 :=
  let (negative, digits) := splitSign text
  let value := (parseDigits digits).map fun value => if negative then -(value : Int) else value
  (value.filter fun value => decide (-2 ^ 31 ≤ value ∧ value < 2 ^ 31)).map Int32.ofInt

theorem not_whitespace_of_digit {c : Char} (digit : isAsciiDigit c = true) :
    isWhitespace c = false := by
  have bounds : '0' ≤ c ∧ c ≤ '9' := by simpa [isAsciiDigit] using digit
  have lower : 48 ≤ c.toNat := UInt32.le_iff_toNat_le.mp (Char.le_def.mp bounds.1)
  have upper : c.toNat ≤ 57 := UInt32.le_iff_toNat_le.mp (Char.le_def.mp bounds.2)
  simp only [isWhitespace, Bool.or_eq_false_iff, Bool.and_eq_false_iff, decide_eq_false_iff_not,
    beq_eq_false_iff_ne]
  omega

/-- A number is a field of a line. -/
theorem toDigits_token (number : Nat) : Token (Nat.toDigits 10 number) :=
  ⟨Nat.toDigits_ne_nil, fun c member => not_whitespace_of_digit
    (toDigits_isAsciiDigit number c member)⟩

theorem parseDigits_toDigits (number : Nat) :
    parseDigits (Nat.toDigits 10 number) = some number := by
  have written : (Nat.toDigits 10 number).isEmpty = false := by simp [Nat.toDigits_ne_nil]
  have numeric : (Nat.toDigits 10 number).all isAsciiDigit = true :=
    List.all_eq_true.mpr (toDigits_isAsciiDigit number)
  simp only [parseDigits, written, numeric, Bool.not_true, Bool.or_self, Bool.false_eq_true,
    if_false, digitsValue_toDigits]

/-- A number is written without a sign. -/
theorem parseUnsigned_toDigits_eq (size number : Nat) :
    parseUnsigned size (Nat.toDigits 10 number) = (some number).filter fun value =>
      decide (value < size) := by
  have unsigned : ∀ rest, Nat.toDigits 10 number ≠ '+' :: rest := by
    intro rest same
    have digit := toDigits_isAsciiDigit number '+' (same ▸ List.mem_cons_self)
    exact absurd digit (by decide)
  rw [parseUnsigned, parseDigits_toDigits]
  exact unsigned

theorem parseUnsigned_toDigits {size number : Nat} (fits : number < size) :
    parseUnsigned size (Nat.toDigits 10 number) = some number := by
  rw [parseUnsigned_toDigits_eq, Option.filter_some, if_pos (decide_eq_true fits)]

theorem parseUnsigned_toDigits_of_le {size number : Nat} (beyond : size ≤ number) :
    parseUnsigned size (Nat.toDigits 10 number) = none := by
  rw [parseUnsigned_toDigits_eq, Option.filter_some, if_neg (by simpa using beyond)]

theorem parseU64_toDigits (number : UInt64) :
    parseU64 (Nat.toDigits 10 number.toNat) = some number := by
  rw [parseU64, parseUnsigned_toDigits number.toNat_lt, Option.map_some, UInt64.ofNat_toNat]

end FragglePacket.Text
