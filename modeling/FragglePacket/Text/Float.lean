import FragglePacket.Text.Decimal
import FragglePacket.Text.Str

/-! Floating-point numbers as they are read and written, with exact finite values, and their
rounding to `f64` for the operations whose last bits matter. -/

namespace FragglePacket.Text

/-- An `f64`. Finite values are exact rationals. -/
inductive F64 where
  | finite (value : ℚ)
  | infinite (negative : Bool)
  | nan
deriving DecidableEq

namespace F64

def abs : F64 → F64
  | finite value => finite |value|
  | infinite _ => infinite false
  | nan => nan

def add : F64 → F64 → F64
  | finite first, finite second => finite (first + second)
  | nan, _ => nan
  | _, nan => nan
  | infinite negative, infinite other => if negative = other then infinite negative else nan
  | infinite negative, finite _ => infinite negative
  | finite _, infinite negative => infinite negative

/-- A product with 1000. -/
def thousandfold : F64 → F64
  | finite value => finite (value * 1000)
  | other => other

/-- The comparison `value <= bound`. -/
def AtMost (bound : ℚ) : F64 → Prop
  | finite value => value ≤ bound
  | infinite negative => negative = true
  | nan => False

instance (bound : ℚ) : DecidablePred (AtMost bound)
  | finite value => inferInstanceAs (Decidable (value ≤ bound))
  | infinite negative => inferInstanceAs (Decidable (negative = true))
  | nan => inferInstanceAs (Decidable False)

/-- The format `{:.places}`. -/
def text (places : Nat) : F64 → String
  | finite value => fixed places value
  | infinite negative => if negative then "-inf" else "inf"
  | nan => "NaN"

def neg : F64 → F64
  | finite value => finite (-value)
  | infinite negative => infinite !negative
  | nan => nan

def sub (first second : F64) : F64 := first.add second.neg

/-- A product; its zeros have no sign. -/
def mul : F64 → F64 → F64
  | finite first, finite second => finite (first * second)
  | nan, _ => nan
  | _, nan => nan
  | infinite negative, finite value => if value = 0 then nan else infinite (negative != (value < 0))
  | finite value, infinite negative => if value = 0 then nan else infinite (negative != (value < 0))
  | infinite negative, infinite other => infinite (negative != other)

/-- A quotient; its zeros have no sign. -/
def div : F64 → F64 → F64
  | finite first, finite second =>
    if second ≠ 0 then finite (first / second) else if first = 0 then nan else infinite (first < 0)
  | nan, _ => nan
  | _, nan => nan
  | infinite negative, finite value => infinite (negative != (value < 0))
  | finite _, infinite _ => finite 0
  | infinite _, infinite _ => nan

/-- The comparison `first < second`. -/
def lt : F64 → F64 → Bool
  | finite first, finite second => first < second
  | infinite negative, infinite other => negative && !other
  | infinite negative, finite _ => negative
  | finite _, infinite negative => !negative
  | _, _ => false

/-- The comparison `first <= second`. -/
def le : F64 → F64 → Bool
  | finite first, finite second => first ≤ second
  | infinite negative, infinite other => negative || !other
  | infinite negative, finite _ => negative
  | finite _, infinite negative => !negative
  | _, _ => false

/-- `f64::max`, which skips a NaN. -/
def max : F64 → F64 → F64
  | nan, second => second
  | first, nan => first
  | first, second => if lt first second then second else first

/-- `f64::min`, which skips a NaN. -/
def min : F64 → F64 → F64
  | nan, second => second
  | first, nan => first
  | first, second => if lt second first then second else first

def powerOfTwo (exponent : Int) : ℚ :=
  if 0 ≤ exponent then (2 : ℚ) ^ exponent.toNat else 1 / (2 : ℚ) ^ (-exponent).toNat

/-- The exponent of the highest power of two that a value other than zero reaches. -/
def floorLog2 (value : ℚ) : Int :=
  -- the value lies between half and double this power
  let estimate : Int := (Nat.log2 value.num.natAbs : Int) - Nat.log2 value.den
  if |value| < powerOfTwo estimate then estimate - 1 else estimate

/-- The distance between the `f64` numbers around a value: 53 significant bits, and fewer
below the smallest normal number. -/
def spacing (value : ℚ) : ℚ := powerOfTwo (Max.max (floorLog2 value - 52) (-1074))

/-- The nearest `f64`, the even one of two; from the end of the range on it is infinite. -/
def nearest (value : ℚ) : F64 :=
  let rounded := roundHalfEven (value / spacing value) * spacing value
  if 2 ^ 1024 ≤ |rounded| then infinite (value < 0) else finite rounded

/-- The `f64` that an operation makes of its exact result. -/
def rounded : F64 → F64
  | finite value => nearest value
  | other => other

-- 11 / 20 * 100 is the number behind 55
example : (((finite 11).div (finite 20)).rounded.mul (finite 100)).rounded =
    finite (55 + 1 / 2 ^ 47) := by decide +kernel

section Order
variable {first second : F64}

theorem add_comm (first second : F64) : first.add second = second.add first := by
  cases first <;> cases second <;> grind [add]

theorem le_of_lt (less : lt first second = true) : le first second = true := by
  cases first <;> cases second <;> grind [lt, le]

theorem ne_nan_of_lt (less : lt first second = true) : first ≠ nan ∧ second ≠ nan := by
  cases first <;> cases second <;> simp_all [lt]

/-- What is capped is the weaker of the two, on either side. -/
theorem min_capped (rate : first ≠ nan) (cap : second ≠ nan) :
    (min first second).min first = min first second ∧
      first.min (min first second) = min first second ∧
      (min first second).max first = first ∧ first.max (min first second) = first := by
  cases first <;> cases second <;> grind [min, max, lt]

end Order

end F64

/-- A sign in front, and what follows it. -/
def splitSign : Str → Bool × Str
  | '+' :: rest => (false, rest)
  | '-' :: rest => (true, rest)
  | text => (false, text)

/-- The digits in front, and what follows them. -/
def splitDigits (text : Str) : Str × Str :=
  (text.takeWhile isAsciiDigit, text.dropWhile isAsciiDigit)

/-- An exponent behind the digits of a number; nothing is the exponent zero. -/
def parseExponent : Str → Option Int
  | [] => some 0
  | mark :: rest =>
    if mark = 'e' ∨ mark = 'E' then
      let (negative, digits) := splitSign rest
      if digits.isEmpty || !digits.all isAsciiDigit then none
      else some (if negative then -(digitsValue 10 digits : Int) else digitsValue 10 digits)
    else none

def powerOfTen (exponent : Int) : ℚ :=
  if 0 ≤ exponent then (10 : ℚ) ^ exponent.toNat else 1 / (10 : ℚ) ^ (-exponent).toNat

/-- Digits with at most one point among them, and an exponent. -/
def parseDecimal (text : Str) : Option ℚ :=
  let (whole, behind) := splitDigits text
  let (fraction, rest) :=
    match behind with
    | '.' :: tail => splitDigits tail
    | _ => ([], behind)
  if whole.isEmpty && fraction.isEmpty then none
  else
    (parseExponent rest).map fun exponent =>
      digitsValue 10 (whole ++ fraction) * powerOfTen (exponent - fraction.length)

/-- `str::parse::<f64>`. -/
def parseF64 (text : Str) : Option F64 :=
  let (negative, body) := splitSign text
  let word := body.map Char.toLower
  if word = ['i', 'n', 'f'] ∨ word = ['i', 'n', 'f', 'i', 'n', 'i', 't', 'y'] then
    some (.infinite negative)
  else if word = ['n', 'a', 'n'] then some .nan
  else (parseDecimal body).map fun value => .finite (if negative then -value else value)

end FragglePacket.Text
