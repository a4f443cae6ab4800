import DeskCalculator.Decimal.Basic

/-!
# The shortest decimal that reads back

Among all decimals that read back as a given float, `Decimal.shortest` picks
one with the fewest digits, and of those the nearest to the float.  For each
number of digits only the two neighbours of the float on the decimal grid can
qualify, so it tries those: the nearer first, and at an exact tie the one that
ends in an even digit.  Seventeen digits always suffice.
-/

namespace DeskCalculator.Decimal

/-- Whether a decimal reads back as the magnitude of `v`. -/
def ReadsBack (d : Decimal) (v : Float) : Prop :=
  d.toFloat.toBits = v.abs.toBits

instance (d : Decimal) (v : Float) : Decidable (d.ReadsBack v) :=
  inferInstanceAs (Decidable (_ = _))

/-- The two neighbours of `d` on the grid that leaves out its last `dropped` digits, the nearer
first. -/
def neighbours (d : Decimal) (dropped : Nat) : List Decimal :=
  let unit := Nat.pow 10 dropped
  let below : Decimal := ⟨d.coefficient / unit, d.exponent + dropped⟩
  let above : Decimal := ⟨d.coefficient / unit + 1, d.exponent + dropped⟩
  match compare (2 * (d.coefficient % unit)) unit with
  | .lt => [below, above]
  | .gt => [above, below]
  | .eq => if below.coefficient % 2 = 0 then [below, above] else [above, below]

/-- The decimals of at most `count` digits that are candidates for `d`. -/
def candidates (d : Decimal) (count : Nat) : List Decimal :=
  if d.digits.length ≤ count then [d] else d.neighbours (d.digits.length - count)

/-- A decimal with the fewest digits that reads back as the magnitude of a finite float. -/
def shortest (v : Float) : Decimal :=
  let exact := ofFloat v
  let found := (List.range' 1 17).findSome? fun count =>
    (exact.candidates count).find? fun d => decide (d.ReadsBack v)
  (found.getD exact).withoutTrailingZeros

end DeskCalculator.Decimal
