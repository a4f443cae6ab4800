import DeskCalculator.Evaluation

/-!
# The state of a calculator

A session holds what stands on the display, the fraction hint above it, the
mode that decides how the next key is taken, the history and the panel that was
opened last.
-/

namespace DeskCalculator

/-- How the display is to be understood. -/
inductive Mode where
  /-- Nothing has been entered. -/
  | idle
  /-- An entry is being made. -/
  | editing
  /-- A result is shown. -/
  | evaluated
  /-- The label of a failure is shown. -/
  | error
  deriving DecidableEq, Repr

/-- The name of a mode. -/
def Mode.name : Mode → String
  | idle => "idle"
  | editing => "editing"
  | evaluated => "evaluated"
  | error => "error"

/-- A time of day. -/
structure Clock where
  hour : Nat
  minute : Nat
  deriving DecidableEq, Repr

/-- A number filled with zeros to two digits. -/
def twoDigits (number : Nat) : String :=
  if number < 10 then s!"0{number}" else toString number

/-- A time of day as it stands in the history. -/
def Clock.text (clock : Clock) : String :=
  s!"{twoDigits clock.hour}:{twoDigits clock.minute}"

/-- One line of the history. -/
structure HistoryEntry where
  /-- What was evaluated or solved. -/
  expression : String
  /-- What came out. -/
  result : String
  /-- When that was. -/
  timestamp : String
  /-- Whether an equation was solved. -/
  solved : Bool
  deriving DecidableEq, Repr

/-- A line of the history as it is shown. -/
def HistoryEntry.text (entry : HistoryEntry) : String :=
  let joiner := if entry.solved then "=>" else "="
  s!"{entry.expression} {joiner} {entry.result}"

/-- The state of a calculator. -/
structure Session where
  /-- The precision of results. -/
  precision : Precision
  /-- What stands on the display. -/
  display : List Char := ['0']
  /-- The fraction hint. -/
  fraction : Option String := none
  /-- How the display is to be understood. -/
  mode : Mode := .idle
  /-- What has been evaluated and solved, the newest first. -/
  history : List HistoryEntry := []
  /-- Whether an equation is being solved. -/
  isSolving : Bool := false
  /-- The panel that was opened last. -/
  panel : Option String := none

namespace Session

/-- Puts an entry on the display. -/
def enter (session : Session) (display : List Char) : Session :=
  { session with
    display
    fraction := none
    mode := if display = ['0'] then .idle else .editing }

/-- Puts the label of a failure on the display. -/
def fail (session : Session) (kind : FaultKind) : Session :=
  { session with display := kind.label.toList, fraction := none, mode := .error }

/-- Forgets the history. -/
def clearHistory (session : Session) : Session :=
  { session with history := [] }

/-- Sets the precision of the results to come. -/
def setPrecision (session : Session) (precision : Precision) : Session :=
  { session with precision }

end Session

end DeskCalculator
