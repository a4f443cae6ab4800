import DeskCalculator.Breakdown
import DeskCalculator.Decimal.Basic

/-!
# Rounding a result

A result may be rounded to a number of decimal places.  The exact binary value
is rounded, a half goes away from zero, and the answer is the float nearest to
the rounded decimal, so `1.005`, which is stored slightly below, stays at
`1.00`.  From `1e21` on a magnitude is left as it is.
-/

namespace DeskCalculator

/-- The number of decimal places to round to, or `none` for no rounding. -/
abbrev Precision := Option Int

/-- The magnitude from which on results are not rounded and are shown with an exponent. -/
def largeMagnitude : Float := 1e21

/-- The most digits that a rounded decimal may have. -/
def roundingDigits : Nat := 40

/-- The largest exponent of a decimal. -/
def largestExponent : Nat := 999999

/-- The unit that is rounded to, `10 ^ -places`, is one shifted by this many places at most. -/
def reach : Nat := 2 * (largestExponent + roundingDigits)

/-- Refuses a number of places that leaves no unit to round to. -/
def checkUnit (places : Int) : Except Breakdown Unit :=
  if reach < places.natAbs then .error .unitOutOfReach
  else if largestExponent < -places then .error .unitTooLarge
  else .ok ()

/-- Whether a decimal that is not zero keeps at most `roundingDigits` digits when it is rounded. -/
def fitsRounding (d : Decimal) (places : Int) : Bool :=
  d.coefficient == 0 || d.pointPosition + places ≤ roundingDigits

/-- Rounds a float to `precision` decimal places. -/
def roundTo (v : Float) (precision : Precision) : Except Breakdown Float :=
  match precision with
  | none => .ok v
  | some places =>
    if !v.isFinite || v.abs ≥ largeMagnitude then .ok v
    else do
      checkUnit places
      let exact := Decimal.ofFloat v
      if fitsRounding exact places then
        return withSign (signBit v) (exact.round places).toFloat
      else throw .tooManyDigits

end DeskCalculator
