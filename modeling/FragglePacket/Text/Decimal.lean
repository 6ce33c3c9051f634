import Mathlib.Algebra.GroupWithZero.Nat
import Mathlib.Data.Rat.Floor

/-! Rationals written with a fixed number of decimal places. -/

namespace FragglePacket.Text

/-- The nearest integer, the even one of two. -/
def roundHalfEven (value : ℚ) : Int :=
  let rest := value - ⌊value⌋
  if rest < 1 / 2 then ⌊value⌋
  else if 1 / 2 < rest then ⌊value⌋ + 1
  else if ⌊value⌋ % 2 = 0 then ⌊value⌋
  else ⌊value⌋ + 1

/-- The decimal digits of a number, with leading zeros up to a width. -/
def paddedDigits (width number : Nat) : List Char :=
  let digits := (toString number).toList
  List.replicate (width - digits.length) '0' ++ digits

/-- The format `{:.places}`. -/
def fixed (places : Nat) (value : ℚ) : String :=
  let scale : Nat := 10 ^ places
  let scaled := (roundHalfEven (|value| * scale)).toNat
  let sign := if value < 0 then "-" else ""
  let fraction :=
    if places = 0 then "" else "." ++ String.ofList (paddedDigits places (scaled % scale))
  sign ++ toString (scaled / scale) ++ fraction

end FragglePacket.Text
