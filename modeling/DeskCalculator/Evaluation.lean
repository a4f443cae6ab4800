import DeskCalculator.Entry.Canonical
import DeskCalculator.Entry.Check
import DeskCalculator.Expr.Machine
import DeskCalculator.Expr.Parser
import DeskCalculator.Result.Display
import DeskCalculator.Result.Fraction

/-!
# Evaluating an entry

An entry is checked, brought to canonical notation, parsed and evaluated; a
value that is not finite is refused, and any other is rounded and presented as
a display text with a fraction hint.
-/

namespace DeskCalculator

/-- The value of a text in canonical notation. -/
def evaluateCanonical (text : String) (bindings : Bindings) : Except EvaluationFailure Float := do
  Expr.evaluate bindings (← (Expr.parse text).mapError .fault)

/-- A value as it is presented. -/
structure Presentation where
  /-- The rounded value. -/
  value : Float
  /-- The text of the rounded value. -/
  display : String
  /-- The fraction hint of the rounded value. -/
  fraction : Option String

/-- Rounds and presents a value. -/
def present (v : Float) (precision : Precision) : Except Breakdown Presentation := do
  let rounded ← roundTo v precision
  let fraction ← fractionHint rounded
  return ⟨rounded, displayText rounded, fraction⟩

/-- What evaluating an entry gives. -/
structure Evaluation where
  /-- The entry that was evaluated, without an unfinished operator at its end. -/
  expression : String
  /-- How its value is presented. -/
  result : Presentation

/-- The finite value of an entry, with the entry as it was evaluated. -/
def entryValue (entry : String) : Except EvaluationFailure (String × Float) := do
  let checked ← (Entry.validate entry.toList).mapError .fault
  let v ← evaluateCanonical (String.ofList (Entry.canonical checked)) []
  if v.isFinite then return (String.ofList checked, v) else throw (.fault (.notFinite entry v))

/-- Evaluates an entry. -/
def evaluateEntry (entry : String) (precision : Precision) :
    Except EvaluationFailure Evaluation := do
  let (expression, v) ← entryValue entry
  let result ← (present v precision).mapError .breakdown
  return ⟨expression, result⟩

end DeskCalculator
