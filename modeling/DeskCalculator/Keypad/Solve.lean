import DeskCalculator.Keypad.Press

/-!
# Solving the equation on the display

An equation with a variable is sent to a solver, if there is one.  A solver that
reports a failure puts a label on the display; one that fails otherwise leaves
the display as it is, and its failure goes through to the caller.
-/

namespace DeskCalculator

/-- What a solver may answer to an equation; `ε` are the failures that it does not report. -/
inductive SolverAnswer (ε : Type) where
  /-- The solution. -/
  | solution (text : String)
  /-- The solver reports that it has none. -/
  | failed
  /-- The solver breaks down. -/
  | broken (failure : ε)

/-- Something that solves equations. -/
abbrev Solver (ε : Type) := String → SolverAnswer ε

namespace Session

open Keypad

variable {ε : Type}

/-- Whether the display can be sent to a solver. -/
def hasEquation (session : Session) : Bool :=
  session.display.any isVariable && '=' ∈ session.display

/-- The session while its equation is being solved. -/
def awaiting (session : Session) : Session :=
  { session with isSolving := true, fraction := none }

/-- The session once an answer has come. -/
def answered (session : Session) : Session :=
  { session with isSolving := false }

/-- Shows a solution and notes it in the history. -/
def showSolution (session : Session) (equation solution : String) (clock : Clock) : Session :=
  { session with
    display := solution.toList
    mode := .evaluated
    history := ⟨equation, solution, clock.text, true⟩ :: session.history }

/-- Sends the display to the solver.  Beside the new session there is the failure that the solver
did not report, if any. -/
def solve (session : Session) (solver : Option (Solver ε)) (clock : Clock) : Session × Option ε :=
  if !session.hasEquation then (session.fail .invalidEquation, none)
  else
    match solver with
    | none => (session.fail .solverFailed, none)
    | some ask =>
      let equation := String.ofList session.display
      let after := session.awaiting.answered
      match ask equation with
      | .solution text => (after.showSolution equation text clock, none)
      | .failed => (after.fail .solverFailed, none)
      | .broken failure => (after, some failure)

end Session

end DeskCalculator
