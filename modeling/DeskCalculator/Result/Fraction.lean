import DeskCalculator.Expr.Function
import DeskCalculator.Result.Rounding

/-!
# The fraction hint

Above a result that is not whole stands a fraction `p/q` that comes close to
it, if there is one with a small denominator.  It is the first convergent of the
continued fraction of the result that lies within a billionth of it.  The
expansion runs in floats: each remainder is the reciprocal of the fractional
part of the one before, while numerators and denominators are exact.
-/

namespace DeskCalculator

/-- The float nearest to the quotient of two natural numbers, of which the second is positive. -/
def nearestQuotient (numerator denominator : Nat) : Float :=
  if hn : 0 < numerator then
    if hd : 0 < denominator then
      .ofModel <| .pack <| Float.Model.UnpackedFloat.div .binary64
        (.finite .positive numerator 0 hn) (.finite .positive denominator 0 hd)
    else infinity
  else 0.0

/-- The largest magnitude that has a fraction hint. -/
def fractionMagnitude : Float := 1e9

/-- The largest denominator of a fraction hint. -/
def fractionDenominator : Nat := 10000

/-- How close, in relation to the value, a convergent has to come. -/
def fractionTolerance : Float := 1e-9

/-- Two successive convergents and the remainder behind them. -/
structure Convergents where
  numerator : Nat
  previousNumerator : Nat
  denominator : Nat
  previousDenominator : Nat
  remainder : Float

/-- How an expansion goes on or ends. -/
inductive Expansion where
  /-- It ends with this fraction. -/
  | found (numerator denominator : Nat)
  /-- It breaks down, as the remainder is infinite. -/
  | infinite
  /-- It goes on. -/
  | unfinished (state : Convergents)

namespace Convergents

/-- The state before the first term of the expansion of `target`. -/
def start (target : Float) : Convergents := ⟨1, 0, 0, 1, target⟩

/-- Takes the whole part of the remainder as the next term. -/
def step (target : Float) (state : Convergents) : Expansion :=
  if !state.remainder.isFinite then .infinite
  else
    let term := wholePart state.remainder
    let numerator := term * state.numerator + state.previousNumerator
    let denominator := term * state.denominator + state.previousDenominator
    if (target - nearestQuotient numerator denominator).abs ≤ target * fractionTolerance then
      .found numerator denominator
    else if fractionDenominator < denominator || isWhole state.remainder then
      .found numerator denominator
    else
      .unfinished ⟨numerator, state.numerator, denominator, state.denominator,
        1.0 / (state.remainder - Float.ofNat term)⟩

/-- Takes up to `terms` terms. -/
def expand (target : Float) : Nat → Convergents → Expansion
  | 0, state => .unfinished state
  | terms + 1, state =>
    match step target state with
    | .unfinished next => expand target terms next
    | ended => ended

end Convergents

/-- More terms than any expansion takes. -/
def expansionTerms : Nat := 64

/-- Whether a value may have a fraction hint: it is finite, not whole, and not too large. -/
def hasFraction (v : Float) : Bool :=
  v.isFinite && !(v.abs > fractionMagnitude) && !isWhole v

/-- The fraction hint of a value. -/
def fractionHint (v : Float) : Except Breakdown (Option String) :=
  if !hasFraction v then .ok none
  else
    match Convergents.expand v.abs expansionTerms (.start v.abs) with
    | .found numerator denominator =>
      if fractionDenominator < denominator then .ok none
      else
        let sign := if v < 0.0 then "-" else ""
        .ok (some s!"{sign}{numerator}/{denominator}")
    | .infinite => .error .infiniteReciprocal
    | .unfinished _ => .ok none

end DeskCalculator
