/-!
# Decimal numbers and the binary floats

A `Decimal` is a natural coefficient scaled by a power of ten.  Every finite
binary64 float is one exactly: its value is an integer times a power of two,
and a negative power of two is a power of five over a power of ten.  Signs are
kept apart, as a decimal here always stands for a magnitude.

`Decimal.ofFloat` gives the exact magnitude of a float, `Decimal.toFloat` the
float nearest to a decimal.
-/

namespace DeskCalculator

/-- The number `coefficient * 10 ^ exponent`. -/
structure Decimal where
  /-- The digits, as one natural number. -/
  coefficient : Nat
  /-- The power of ten that the digits are scaled by. -/
  exponent : Int
  deriving DecidableEq, Repr

/-- The exponent field of a float: zero for zeros and subnormals, 2047 for infinities and NaN. -/
def exponentField (v : Float) : Nat :=
  (v.toBits.toNat >>> 52) % 2048

/-- The fraction field of a float. -/
def fractionField (v : Float) : Nat :=
  v.toBits.toNat % (1 <<< 52)

/-- The sign bit of a float; it is set for the negative zero too. -/
def signBit (v : Float) : Bool :=
  v.toBits.toNat.testBit 63

/-- The integer significand of a finite float: its magnitude is `significand v * 2 ^ scale v`. -/
def significand (v : Float) : Nat :=
  if exponentField v = 0 then fractionField v else (1 <<< 52) + fractionField v

/-- The power of two that belongs to `significand`. -/
def scale (v : Float) : Int :=
  (max (exponentField v) 1 : Int) - 1075

/-- The float `-v` if `negative` and `v` otherwise. -/
def withSign (negative : Bool) (v : Float) : Float :=
  if negative then -v else v

namespace Decimal

/-- The magnitude of a finite float, exactly. -/
def ofFloat (v : Float) : Decimal :=
  match scale v with
  | .ofNat power => ⟨significand v <<< power, 0⟩
  | .negSucc power => ⟨significand v * Nat.pow 5 (power + 1), -(power + 1 : Int)⟩

/-- The float nearest to a decimal; of two equally near ones, the one with the even significand. -/
def toFloat (d : Decimal) : Float :=
  Float.ofScientific d.coefficient (d.exponent < 0) d.exponent.natAbs

/-- The decimal digits of the coefficient, the most significant first. -/
def digits (d : Decimal) : List Char :=
  Nat.toDigits 10 d.coefficient

/-- How many digits stand before the decimal point; zero or less for a number below one. -/
def pointPosition (d : Decimal) : Int :=
  d.digits.length + d.exponent

/-- The same number without zeros at the end of its coefficient. -/
def withoutTrailingZeros (d : Decimal) : Decimal :=
  if h : d.coefficient ≠ 0 ∧ d.coefficient % 10 = 0 then
    withoutTrailingZeros ⟨d.coefficient / 10, d.exponent + 1⟩
  else d
termination_by d.coefficient
decreasing_by omega

/-- The decimal rounded to `places` digits behind the point, a half away from zero.  A negative
number of places rounds to tens, hundreds and so on. -/
def round (d : Decimal) (places : Int) : Decimal :=
  match d.exponent + places with
  | .ofNat extra =>
    if d.coefficient = 0 then ⟨0, -places⟩ else ⟨d.coefficient * Nat.pow 10 extra, -places⟩
  | .negSucc surplus =>
    if d.digits.length ≤ surplus then ⟨0, -places⟩
    else
      let unit := Nat.pow 10 (surplus + 1)
      ⟨(2 * d.coefficient + unit) / (2 * unit), -places⟩

end Decimal

end DeskCalculator
