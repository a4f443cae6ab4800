import DeskCalculator.Fault

/-!
# How a calculation can end without a value

A fault is found in the entry and reported to the user.  But the arithmetic that
a calculation rests on refuses some operations with an error of its own, and so
does the presentation of a result.  Such an error that nobody answers for is a
breakdown: no label is shown for it, and the operation that was asked for fails.
-/

namespace DeskCalculator

/-- The errors with which arithmetic refuses an operation. -/
inductive ArithmeticError where
  /-- The divisor is zero. -/
  | zeroDivision
  /-- There is no value at these operands. -/
  | outsideDomain
  /-- The value is too large for a float. -/
  | overflow
  deriving DecidableEq, Repr

/-- The ways in which a calculation or the presentation of its result can break down. -/
inductive Breakdown where
  /-- Arithmetic refuses an operation. -/
  | arithmetic (error : ArithmeticError)
  /-- The rounded decimal has more digits than are computed with. -/
  | tooManyDigits
  /-- The unit to round to is so far from one that it cannot be reached. -/
  | unitOutOfReach
  /-- The unit to round to is larger than every decimal. -/
  | unitTooLarge
  /-- The reciprocal of a remainder of the fraction expansion is infinite. -/
  | infiniteReciprocal
  deriving DecidableEq, Repr

/-- Why an entry was not evaluated. -/
inductive EvaluationFailure where
  /-- The entry has no value. -/
  | fault (fault : Fault)
  /-- The calculation broke down, or its result could not be presented. -/
  | breakdown (breakdown : Breakdown)

/-- The failure of a calculation in which arithmetic refuses an operation. -/
def EvaluationFailure.ofArithmetic (error : ArithmeticError) : EvaluationFailure :=
  .breakdown (.arithmetic error)

end DeskCalculator
