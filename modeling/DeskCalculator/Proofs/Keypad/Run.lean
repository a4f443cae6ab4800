import DeskCalculator.Keypad.Solve
import DeskCalculator.Proofs.Keypad.Keys

/-!
# Runs of a session

Everything that is done with a session is an `Operation`.  A run carries out
several of them one after the other, and an operation that fails does not end it.

What an operation can do to a session, whichever key it is, is said once, by the
relations `Move` and `Step` (`step_apply`).  A property of sessions that every `Step`
keeps is kept by every run (`run_induction`), and so the invariants of sessions are
proved from the steps alone.
-/

namespace DeskCalculator

open Keypad

/-- Something that is done with a session. -/
inductive Operation (ε : Type) where
  /-- A key is pressed. -/
  | press (label : String) (clock : Clock)
  /-- The equation on the display is sent to a solver, if there is one. -/
  | solve (solver : Option (Solver ε)) (clock : Clock)
  /-- The history is forgotten. -/
  | clearHistory
  /-- Another precision is chosen. -/
  | setPrecision (precision : Precision)

/-- Why an operation failed. -/
inductive OperationFailure (ε : Type) where
  | press (failure : PressFailure)
  | solver (failure : ε)

namespace Session

variable {ε : Type}

/-- A session at its start. -/
def fresh (precision : Precision) : Session := { precision }

/-- Carries out an operation.  Beside the new session there is the failure, if any. -/
def apply (session : Session) : Operation ε → Session × Option (OperationFailure ε)
  | .press label clock =>
    match session.press label clock with
    | .ok (next, _) => (next, none)
    | .error failure => (session, some (.press failure))
  | .solve solver clock =>
    let (next, failure) := session.solve solver clock
    (next, failure.map .solver)
  | .clearHistory => (session.clearHistory, none)
  | .setPrecision precision => (session.setPrecision precision, none)

/-- Carries out operations one after the other, whether they fail or not. -/
def run (session : Session) (operations : List (Operation ε)) : Session :=
  operations.foldl (fun session operation => (session.apply operation).1) session

@[simp] theorem run_nil (session : Session) : session.run ([] : List (Operation ε)) = session := rfl

theorem run_cons (session : Session) (operation : Operation ε) (operations : List (Operation ε)) :
    session.run (operation :: operations) = (session.apply operation).1.run operations := rfl

theorem run_append (session : Session) (first second : List (Operation ε)) :
    session.run (first ++ second) = (session.run first).run second :=
  List.foldl_append

/-! ## What an operation can do -/

/-- How a key or a solver can change a session. -/
inductive Move (session : Session) : Session → Prop
  | stay : Move session session
  | enter (display : List Char) : Move session (session.enter display)
  | fail (kind : FaultKind) : Move session (session.fail kind)
  | openPanel (label : String) (key : label ∈ panelKeys) :
      Move session { session with panel := some label }
  /-- An entry without a variable has got a value. -/
  | result {evaluation : Evaluation} (clock : Clock)
      (entry : session.display.any isVariable = false)
      (value : evaluateEntry (String.ofList session.display) session.precision = .ok evaluation) :
      Move session (session.showResult evaluation clock)
  /-- An equation has got a solution. -/
  | solution (text : String) (clock : Clock) (equation : session.hasEquation = true) :
      Move session
        (session.awaiting.answered.showSolution (String.ofList session.display) text clock)
  /-- The solver has reported a failure. -/
  | refusal (equation : session.hasEquation = true) :
      Move session (session.awaiting.answered.fail .solverFailed)
  /-- The solver has failed without a report. -/
  | breakdown (equation : session.hasEquation = true) : Move session session.awaiting.answered

/-- How one operation can change a session. -/
inductive Step (session : Session) : Session → Prop
  | move {next : Session} (move : Move session next) : Step session next
  | clearHistory : Step session session.clearHistory
  | setPrecision (precision : Precision) : Step session (session.setPrecision precision)

variable {session next : Session} {label : String} {clock : Clock} {action : Option String}

theorem Appended.move (h : Appended session label next) : Move session next := by
  cases h with
  | behindFailure | secondPoint | otherOperator => exact .stay
  | sign | operator | replacing | behind => exact .enter _

theorem Equalled.move (h : Equalled session clock next action) : Move session next := by
  cases h with
  | stay => exact .stay
  | equation => exact .enter _
  | result entry value => exact .result clock entry value
  | fault kind => exact .fail kind

theorem move_press (h : session.press label clock = .ok (next, action)) : Move session next := by
  cases Pressed.of_press h with
  | factor | clear | delete => exact .enter _
  | panel key => exact .openPanel label key
  | solve => exact .stay
  | equals key equalled => exact equalled.move
  | character key appended => exact appended.move

theorem move_solve (session : Session) (solver : Option (Solver ε)) (clock : Clock) :
    Move session (session.solve solver clock).1 := by
  unfold solve
  split_ifs with hequation
  · exact .fail _
  have hequation : session.hasEquation = true := by simpa using hequation
  cases solver with
  | none => exact .fail _
  | some ask =>
      simp only
      cases ask (String.ofList session.display) with
      | solution text => exact .solution text clock hequation
      | failed => exact .refusal hequation
      | broken failure => exact .breakdown hequation

/-- Neither a key nor a solver chooses another precision. -/
theorem Move.precision (move : Move session next) : next.precision = session.precision := by
  cases move <;> rfl

/-- Whatever is done with a session is one of the steps. -/
theorem step_apply (session : Session) (operation : Operation ε) :
    Step session (session.apply operation).1 := by
  cases operation with
  | press label clock =>
      rw [apply]
      cases hpress : session.press label clock with
      | error failure => exact .move .stay
      | ok outcome => exact .move (move_press hpress)
  | solve solver clock => exact .move (move_solve session solver clock)
  | clearHistory => exact .clearHistory
  | setPrecision precision => exact .setPrecision precision

/-- What every step keeps, every run keeps. -/
theorem run_induction {P : Session → Prop} (keeps : ∀ before after, P before → Step before after →
    P after) (operations : List (Operation ε)) (h : P session) : P (session.run operations) := by
  induction operations generalizing session with
  | nil => exact h
  | cons operation later ih =>
      rw [run_cons]
      exact ih (keeps _ _ h (step_apply session operation))

/-- A property that an operation can end in one way only holds along a run exactly as long as that
does not happen. -/
theorem forall_prefix_iff {P : Session → Prop} {Ends : Session → Operation ε → Prop}
    {operations : List (Operation ε)} (h : P session)
    (step : ∀ earlier operation, earlier ++ [operation] <+: operations → P (session.run earlier) →
      (P ((session.run earlier).apply operation).1 ↔ ¬ Ends (session.run earlier) operation)) :
    (∀ earlier, earlier <+: operations → P (session.run earlier)) ↔
      ∀ earlier operation, earlier ++ [operation] <+: operations →
        ¬ Ends (session.run earlier) operation := by
  constructor
  · intro hall earlier operation hbegins
    have hearlier := hall earlier ((List.prefix_append _ _).trans hbegins)
    have hnext := hall _ hbegins
    rw [run_append] at hnext
    exact (step earlier operation hbegins hearlier).1 hnext
  · intro hnever earlier hbegins
    induction earlier using List.reverseRecOn with
    | nil => exact h
    | append_singleton earlier operation ih =>
        have hearlier := ih ((List.prefix_append _ _).trans hbegins)
        rw [run_append]
        exact (step earlier operation hbegins hearlier).2 (hnever _ _ hbegins)

end Session

end DeskCalculator
