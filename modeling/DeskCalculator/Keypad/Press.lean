import DeskCalculator.Keypad.Session

/-!
# Pressing keys

Each key is a label.  Some labels name functions, constants, panels or
commands; every other label is text to append, within the rules that keep an
entry sensible: a decimal point is taken once a number, and a new operator
replaces the one before it, unless it is the sign of what follows.

Pressing a key can break down: an operator cannot be placed on an empty display,
and a value may have no presentation.  The session is then what it was before.
-/

namespace DeskCalculator

/-- Why pressing a key failed. -/
inductive PressFailure where
  /-- There is no last character to look at. -/
  | emptyDisplay
  /-- The value of the entry could not be presented. -/
  | breakdown (breakdown : Breakdown)
  deriving DecidableEq, Repr

namespace Keypad

open Text

/-! ## The keys -/

/-- The keys that open a call. -/
def functionKeys : List String := ["sin", "cos", "tan", "log", "root", "nPr", "nCr"]

/-- The keys of constants. -/
def constantKeys : List String := ["π", "e"]

/-- The keys that open a panel. -/
def panelKeys : List String :=
  ["Fn", "Settings", "Graph", "Formulas", "Long Division", "Assistant", "Hist"]

/-- The action that asks for an equation to be solved. -/
def solveAction : String := "solve"

/-- The operators behind which a minus is a sign. -/
def signPlaces : List Char := ['*', '/', '^', '(']

/-- Whether a label is that of an operator. -/
def isOperator (label : String) : Bool :=
  Entry.operators.any fun c => label == c.toString

/-- Whether a label stands for a suffix of a number. -/
def isSuffix (label : String) : Bool :=
  label == "%" || label == "!"

/-! ## Looking at the display -/

/-- Whether a character separates the segments of an entry. -/
def isDivider (c : Char) : Bool :=
  c ∈ ['+', '-', '*', '/', '^', '(', ')', '=', ',']

/-- The segment in which the next character would be placed. -/
def lastSegment (display : List Char) : List Char :=
  (display.reverse.takeWhile (!isDivider ·)).reverse

/-- Whether a multiplication is understood behind this character. -/
def endsFactor (c : Char) : Bool :=
  isDigit c || c ∈ [')', 'π', 'e']

/-- Whether a multiplication is understood behind the display; a line feed at its end is looked
past. -/
def impliesProduct (display : List Char) : Bool :=
  display.getLast?.any endsFactor ||
    (display.getLast? == some '\n' && display.dropLast.getLast?.any endsFactor)

/-- Whether a character is a variable. -/
def isVariable (c : Char) : Bool :=
  c ∈ ['x', 'y', 'z']

/-- The two sides of an equation, if there is exactly one equality sign. -/
def sides? (display : List Char) : Option (List Char × List Char) :=
  if display.count '=' = 1 then
    some (display.takeWhile (· != '='), (display.dropWhile (· != '=')).drop 1)
  else none

end Keypad

namespace Session

open Keypad

/-! ## Keys that extend the entry -/

/-- A key that starts a factor: a function with its parenthesis, a constant or a parenthesis. -/
def appendFactor (session : Session) (label : String) : Session :=
  let factor := if label ∈ functionKeys then label.toList ++ ['('] else label.toList
  if session.display = ['0'] ∨ session.mode = .error ∨ session.mode = .evaluated then
    session.enter factor
  else if impliesProduct session.display then session.enter (session.display ++ '*' :: factor)
  else session.enter (session.display ++ factor)

/-- An operator behind an entry, which is not the zero at the start. -/
def appendOperator (session : Session) (label : String) : Except PressFailure Session :=
  let display := session.display
  match display.getLast? with
  | none => .error .emptyDisplay
  | some last =>
    if last ∈ Entry.operators then
      if label = "-" ∧ last ∈ signPlaces then .ok (session.enter (display ++ label.toList))
      else if display.dropLast.getLast?.any (· ∈ Entry.operators) then
        .ok (session.enter (display.dropLast.dropLast ++ label.toList))
      else .ok (session.enter (display.dropLast ++ label.toList))
    else .ok (session.enter (display ++ label.toList))

/-- A key that is taken as it is labelled. -/
def append (session : Session) (label : String) : Except PressFailure Session :=
  let display := session.display
  if session.mode = .error then
    .ok (if isOperator label then session else session.enter label.toList)
  else if session.mode = .evaluated ∧ ¬ isOperator label ∧ ¬ isSuffix label then
    .ok (session.enter label.toList)
  else if label = "." ∧ '.' ∈ lastSegment display then .ok session
  else if isOperator label then
    if display = ['0'] then .ok (if label = "-" then session.enter ['-'] else session)
    else session.appendOperator label
  else if display = ['0'] ∧ label ≠ "." ∧ ¬ isSuffix label then .ok (session.enter label.toList)
  else .ok (session.enter (display ++ label.toList))

/-- Takes back the last character. -/
def delete (session : Session) : Session :=
  if session.mode = .error ∨ session.display.length ≤ 1 then session.enter ['0']
  else session.enter session.display.dropLast

/-! ## The key for the result -/

/-- Shows a result and notes it in the history. -/
def showResult (session : Session) (evaluation : Evaluation) (clock : Clock) : Session :=
  { session with
    display := evaluation.result.display.toList
    fraction := evaluation.result.fraction
    mode := .evaluated
    history :=
      ⟨evaluation.expression, evaluation.result.display, clock.text, false⟩ :: session.history }

/-- Asks for the result.  An entry with a variable is an equation: the first time it gets its
equality sign, and once it has two sides it is to be solved. -/
def equals (session : Session) (clock : Clock) : Except PressFailure (Session × Option String) :=
  let display := session.display
  if session.mode = .error then .ok (session, none)
  else if display.any isVariable then
    match sides? display with
    | some (left, right) =>
      let isComplete := !Text.isBlankText left && !Text.isBlankText right
      .ok (session, if isComplete then some solveAction else none)
    | none => .ok (if '=' ∈ display then session else session.enter (display ++ ['=']), none)
  else
    match evaluateEntry (String.ofList display) session.precision with
    | .ok evaluation => .ok (session.showResult evaluation clock, none)
    | .error (.fault fault) => .ok (session.fail fault.kind, none)
    | .error (.breakdown breakdown) => .error (.breakdown breakdown)

/-! ## All keys -/

/-- Presses a key; gives the new session and the action that the key asks for. -/
def press (session : Session) (label : String) (clock : Clock) :
    Except PressFailure (Session × Option String) :=
  if label ∈ functionKeys ∨ label ∈ constantKeys ∨ label = "(" then
    .ok (session.appendFactor label, none)
  else if label ∈ panelKeys then .ok ({ session with panel := some label }, some label)
  else if label = "Solve" then .ok (session, some solveAction)
  else if label = "C" then .ok (session.enter ['0'], none)
  else if label = "DEL" then .ok (session.delete, none)
  else if label = "=" then session.equals clock
  else do
    let next ← session.append label
    return (next, none)

end Session

end DeskCalculator
