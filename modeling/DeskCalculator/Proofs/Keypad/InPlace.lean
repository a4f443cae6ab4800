import DeskCalculator.Proofs.Keypad.Coherence

/-!
# Operations that change a session in place

The operations on a session give a new session or a failure.  Here they are as
they are carried out on one session that is changed in place, one assignment
after the other: an operation that fails leaves behind what it has assigned by
then.

Both accounts agree (`run_carryOut`).  Pressing a key fails only before the first
assignment (`run_press`).  A solver that breaks down interrupts assignments that
change nothing in a coherent session, since an equation has no fraction hint
(`eq_of_solve_failure`).  So an operation that fails leaves nothing behind
(`carryOut_failure`, `pressAndSolve_failure`).
-/

namespace DeskCalculator.InPlace

open Keypad Session

/-- Work on a session in place; a failure comes with the session as it was left. -/
abbrev Procedure (ε α : Type) := EStateM ε Session α

variable {ε : Type}

/-! ## Assignments -/

/-- Puts an entry on the display. -/
def enter (display : List Char) : Procedure ε Unit := do
  modify fun session => { session with display }
  modify fun session => { session with fraction := none }
  modify fun session => { session with mode := if display = ['0'] then .idle else .editing }

/-- Puts the label of a failure on the display. -/
def fail (kind : FaultKind) : Procedure ε Unit := do
  modify fun session => { session with display := kind.label.toList }
  modify fun session => { session with fraction := none }
  modify fun session => { session with mode := .error }

/-- Puts a line in front of the history. -/
def note (entry : HistoryEntry) : Procedure ε Unit :=
  modify fun session => { session with history := entry :: session.history }

/-! ## Keys -/

/-- A key that starts a factor. -/
def appendFactor (label : String) : Procedure ε Unit := do
  let session ← get
  let factor := if label ∈ functionKeys then label.toList ++ ['('] else label.toList
  if session.display = ['0'] ∨ session.mode = .error ∨ session.mode = .evaluated then enter factor
  else if impliesProduct session.display then enter (session.display ++ '*' :: factor)
  else enter (session.display ++ factor)

/-- The last character of a display, which must not be empty. -/
def lastOf (display : List Char) : Procedure PressFailure Char :=
  match display.getLast? with
  | some last => pure last
  | none => throw .emptyDisplay

/-- An operator behind an entry, which is not the zero at the start. -/
def appendOperator (label : String) : Procedure PressFailure Unit := do
  let display := (← get).display
  let last ← lastOf display
  if last ∈ Entry.operators then
    if label = "-" ∧ last ∈ signPlaces then enter (display ++ label.toList)
    else if display.dropLast.getLast?.any (· ∈ Entry.operators) then
      enter (display.dropLast.dropLast ++ label.toList)
    else enter (display.dropLast ++ label.toList)
  else enter (display ++ label.toList)

/-- A key that is taken as it is labelled. -/
def append (label : String) : Procedure PressFailure Unit := do
  let session ← get
  let display := session.display
  if session.mode = .error then
    if isOperator label then pure () else enter label.toList
  else if session.mode = .evaluated ∧ ¬ isOperator label ∧ ¬ isSuffix label then
    enter label.toList
  else if label = "." ∧ '.' ∈ lastSegment display then pure ()
  else if isOperator label then
    if display = ['0'] then
      if label = "-" then enter ['-'] else pure ()
    else appendOperator label
  else if display = ['0'] ∧ label ≠ "." ∧ ¬ isSuffix label then enter label.toList
  else enter (display ++ label.toList)

/-- Takes back the last character. -/
def delete : Procedure ε Unit := do
  let session ← get
  if session.mode = .error ∨ session.display.length ≤ 1 then enter ['0']
  else enter session.display.dropLast

/-- Shows a result and notes it in the history. -/
def showResult (evaluation : Evaluation) (clock : Clock) : Procedure ε Unit := do
  modify fun session => { session with display := evaluation.result.display.toList }
  modify fun session => { session with fraction := evaluation.result.fraction }
  modify fun session => { session with mode := .evaluated }
  note ⟨evaluation.expression, evaluation.result.display, clock.text, false⟩

/-- Asks for the result. -/
def equals (clock : Clock) : Procedure PressFailure (Option String) := do
  let session ← get
  let display := session.display
  if session.mode = .error then return none
  else if display.any isVariable then
    match sides? display with
    | some (left, right) =>
      let isComplete := !Text.isBlankText left && !Text.isBlankText right
      return if isComplete then some solveAction else none
    | none => do
      if '=' ∈ display then pure () else enter (display ++ ['='])
      return none
  else
    match evaluateEntry (String.ofList display) session.precision with
    | .ok evaluation => do
      showResult evaluation clock
      return none
    | .error (.fault fault) => do
      fail fault.kind
      return none
    | .error (.breakdown breakdown) => throw (.breakdown breakdown)

/-- Presses a key; gives the action that it asks for. -/
def press (label : String) (clock : Clock) : Procedure PressFailure (Option String) :=
  if label ∈ functionKeys ∨ label ∈ constantKeys ∨ label = "(" then do
    appendFactor label
    return none
  else if label ∈ panelKeys then do
    modify fun session => { session with panel := some label }
    return some label
  else if label = "Solve" then return some solveAction
  else if label = "C" then do
    enter ['0']
    return none
  else if label = "DEL" then do
    delete
    return none
  else if label = "=" then equals clock
  else do
    append label
    return none

/-! ## Solving -/

/-- Waits for the answer of a solver.  However that ends, nothing is being solved afterwards. -/
def await (answer : SolverAnswer ε) : Procedure ε (Option String) :=
  tryFinally
    (match answer with
      | .solution text => return some text
      | .failed => do
        fail .solverFailed
        return none
      | .broken failure => throw failure)
    (modify fun session => { session with isSolving := false })

/-- Sends the display to the solver. -/
def solve (solver : Option (Solver ε)) (clock : Clock) : Procedure ε Unit := do
  let session ← get
  let equation := String.ofList session.display
  if !session.hasEquation then fail .invalidEquation
  else
    match solver with
    | none => fail .solverFailed
    | some ask => do
      modify fun session => { session with isSolving := true }
      modify fun session => { session with fraction := none }
      match ← await (ask equation) with
      | none => pure ()
      | some text => do
        modify fun session => { session with display := text.toList }
        modify fun session => { session with mode := .evaluated }
        note ⟨equation, text, clock.text, true⟩

/-! ## All operations -/

/-- Carries out an operation. -/
def carryOut : Operation ε → Procedure (OperationFailure ε) Unit
  | .press label clock => EStateM.adaptExcept .press do
    let _ ← press label clock
    return ()
  | .solve solver clock => (solve solver clock).adaptExcept .solver
  | .clearHistory => modify fun session => { session with history := [] }
  | .setPrecision precision => modify fun session => { session with precision }

/-- Presses a key, and solves the equation on the display if the key asks for that. -/
def pressAndSolve (label : String) (solver : Option (Solver ε)) (clock : Clock) :
    Procedure (OperationFailure ε) (Option String) := do
  let action ← (press label clock).adaptExcept .press
  if action = some solveAction then (solve solver clock).adaptExcept .solver
  return action

/-! ## Keys in place -/

/-- What comes of an operation in place that leaves the session alone if it fails. -/
def kept {α : Type} (session : Session) (outcome : Except ε (Session × α)) :
    EStateM.Result ε Session α :=
  match outcome with
  | .ok (next, result) => .ok result next
  | .error failure => .error failure session

variable {session after : Session}

theorem run_get_bind {α : Type} (next : Session → Procedure ε α) :
    (get >>= next).run session = (next session).run session := rfl

theorem run_ite {α : Type} {p : Prop} [Decidable p] (first second : Procedure ε α) :
    (if p then first else second).run session =
      if p then first.run session else second.run session :=
  apply_ite (·.run session) p first second

theorem run_enter (display : List Char) :
    (enter display : Procedure ε Unit).run session = .ok () (session.enter display) := rfl

theorem run_appendFactor (label : String) :
    (appendFactor label : Procedure ε Unit).run session = .ok () (session.appendFactor label) := by
  unfold appendFactor Session.appendFactor
  simp only [run_get_bind, run_ite, run_enter]
  split_ifs <;> rfl

theorem run_appendOperator (label : String) : (appendOperator label).run session =
    kept session ((session.appendOperator label).map (·, ())) := by
  unfold appendOperator Session.appendOperator lastOf
  rw [run_get_bind]
  simp only
  cases session.display.getLast? with
  | none => rfl
  | some last =>
      simp only [pure_bind, run_ite, run_enter]
      split_ifs <;> rfl

theorem run_append (label : String) :
    (append label).run session = kept session ((session.append label).map (·, ())) := by
  unfold append Session.append
  simp only [run_get_bind, run_ite, run_enter, run_appendOperator]
  split_ifs <;> rfl

theorem run_delete : (delete : Procedure ε Unit).run session = .ok () session.delete := by
  unfold delete Session.delete
  simp only [run_get_bind, run_ite, run_enter]
  split_ifs <;> rfl

theorem run_equals (clock : Clock) :
    (equals clock).run session = kept session (session.equals clock) := by
  unfold equals Session.equals
  simp only [run_get_bind, run_ite]
  by_cases herror : session.mode = .error
  · rw [if_pos herror, if_pos herror]
    rfl
  rw [if_neg herror, if_neg herror]
  by_cases hvariable : session.display.any isVariable = true
  · rw [if_pos hvariable, if_pos hvariable]
    cases sides? session.display with
    | some sides => rfl
    | none =>
        by_cases hequation : '=' ∈ session.display
        · simp only [hequation, if_true]
          rfl
        · simp only [hequation, if_false]
          rfl
  rw [if_neg hvariable, if_neg hvariable]
  cases evaluateEntry (String.ofList session.display) session.precision with
  | ok evaluation => rfl
  | error failure => cases failure <;> rfl

theorem run_bind {α β : Type} (first : Procedure ε α) (next : α → Procedure ε β) :
    (first >>= next).run session =
      match first.run session with
      | .ok result between => (next result).run between
      | .error failure between => .error failure between := by
  show EStateM.bind first next session = _
  unfold EStateM.bind EStateM.run
  cases first session <;> rfl

/-- Pressing a key in place gives what it gives otherwise, and a failure leaves the session alone. -/
theorem run_press (label : String) (clock : Clock) :
    (press label clock).run session = kept session (session.press label clock) := by
  unfold press Session.press
  simp only [run_ite]
  split_ifs with hfactor hpanel hsolve hclear hdelete hequals
  · rw [run_bind, run_appendFactor]
    rfl
  · rfl
  · rfl
  · rfl
  · rw [run_bind, run_delete]
    rfl
  · exact run_equals clock
  · rw [run_bind, run_append]
    cases session.append label <;> rfl

/-! ## Solving in place -/

/-- What comes of an operation in place that leaves a new session even if it fails; without a
failure it gives `result`. -/
def left {α : Type} (result : α) (outcome : Session × Option ε) : EStateM.Result ε Session α :=
  match outcome.2 with
  | none => .ok result outcome.1
  | some failure => .error failure outcome.1

/-- Solving in place gives what it gives otherwise, and so does a failure. -/
theorem run_solve (solver : Option (Solver ε)) (clock : Clock) :
    (solve solver clock).run session = left () (session.solve solver clock) := by
  unfold solve Session.solve
  simp only [run_get_bind, run_ite]
  split_ifs with hequation
  · rfl
  cases solver with
  | none => rfl
  | some ask =>
      simp only
      cases ask (String.ofList session.display) with
      | solution text => rfl
      | failed => rfl
      | broken failure => rfl

/-! ## Operations in place -/

theorem run_adaptExcept {δ α : Type} (f : ε → δ) (procedure : Procedure ε α) :
    (EStateM.adaptExcept f procedure).run session =
      match procedure.run session with
      | .ok result next => .ok result next
      | .error failure next => .error (f failure) next := by
  simp only [EStateM.adaptExcept, EStateM.run]
  cases procedure session <;> rfl

/-- Both accounts of an operation agree, also in what a failure leaves behind. -/
theorem run_carryOut (operation : Operation ε) :
    (carryOut operation).run session = left () (session.apply operation) := by
  cases operation with
  | press label clock =>
      rw [carryOut, run_adaptExcept, run_bind, run_press, Session.apply]
      cases session.press label clock <;> rfl
  | solve solver clock =>
      rw [carryOut, run_adaptExcept, run_solve, Session.apply]
      obtain ⟨next, failure⟩ := session.solve solver clock
      cases failure <;> rfl
  | clearHistory => rfl
  | setPrecision precision => rfl

/-! ## Failures leave nothing behind -/

/-- A key that asks for a solution changes nothing. -/
theorem eq_of_press_solveAction {label : String} {clock : Clock}
    (h : session.press label clock = .ok (after, some solveAction)) : after = session := by
  cases Pressed.of_press h with
  | panel key => exact absurd key (by decide)
  | solve => rfl
  | equals _ equalled =>
      cases equalled
      rfl

private theorem awaiting_answered_eq (hsettled : session.isSolving = false)
    (hfraction : session.fraction = none) : session.awaiting.answered = session := by
  cases session
  cases hsettled
  cases hfraction
  rfl

/-- A solver can break down only on an equation, which has no fraction hint to lose. -/
theorem eq_of_solve_failure (h : Coherent session) {solver : Option (Solver ε)} {clock : Clock}
    {failure : ε} (hsolve : session.solve solver clock = (after, some failure)) :
    after = session := by
  unfold Session.solve at hsolve
  split_ifs at hsolve with hequation
  · cases hsolve
  have hequation : session.hasEquation = true := by simpa using hequation
  have hvariable : session.display.any isVariable = true := by
    rw [hasEquation, Bool.and_eq_true] at hequation
    exact hequation.1
  -- the hint is the only thing that waiting for an answer could lose
  have hfraction : session.fraction = none := by
    by_contra hhint
    have hnone := (h.hint hhint).2
    rw [hvariable] at hnone
    cases hnone
  cases solver with
  | none => cases hsolve
  | some ask =>
      cases hask : ask (String.ofList session.display) with
      | solution text => simp [hask] at hsolve
      | failed => simp [hask] at hsolve
      | broken other =>
          simp only [hask, Prod.mk.injEq] at hsolve
          exact hsolve.1.symm.trans (awaiting_answered_eq h.settled hfraction)

theorem eq_of_apply_solve_failure (h : Coherent session) {α : Type} {result : α}
    {solver : Option (Solver ε)} {clock : Clock} {failure : OperationFailure ε}
    (hfailure : left result (session.apply (.solve solver clock)) = .error failure after) :
    after = session := by
  rw [Session.apply] at hfailure
  cases hsolve : session.solve solver clock with
  | mk next cause =>
      rw [hsolve] at hfailure
      cases cause with
      | none => cases hfailure
      | some cause =>
          cases hfailure
          exact eq_of_solve_failure h hsolve

/-- An operation that fails leaves a coherent session as it was, also where it is changed in
place. -/
theorem carryOut_failure (h : Coherent session) {operation : Operation ε}
    {failure : OperationFailure ε}
    (hfailure : (carryOut operation).run session = .error failure after) : after = session := by
  rw [run_carryOut] at hfailure
  cases operation with
  | press label clock =>
      rw [Session.apply] at hfailure
      cases hpress : session.press label clock with
      | ok outcome =>
          rw [hpress] at hfailure
          cases hfailure
      | error cause =>
          rw [hpress] at hfailure
          cases hfailure
          rfl
  | solve solver clock => exact eq_of_apply_solve_failure h hfailure
  | clearHistory => cases hfailure
  | setPrecision precision => cases hfailure

/-- What pressing a key, and solving if it asks for that, comes to. -/
theorem run_pressAndSolve (label : String) (solver : Option (Solver ε)) (clock : Clock) :
    (pressAndSolve label solver clock).run session =
      match session.press label clock with
      | .error failure => .error (.press failure) session
      | .ok (next, action) =>
        if action = some solveAction then left action (session.apply (.solve solver clock))
        else .ok action next := by
  unfold pressAndSolve
  rw [run_bind, run_adaptExcept, run_press]
  cases hpress : session.press label clock with
  | error failure => rfl
  | ok outcome =>
      obtain ⟨next, action⟩ := outcome
      simp only [kept]
      split_ifs with hsolve
      -- the key that asks for a solution has changed nothing yet
      · rw [hsolve] at hpress
        rw [eq_of_press_solveAction hpress, run_bind, run_adaptExcept, run_solve, Session.apply]
        obtain ⟨last, cause⟩ := session.solve solver clock
        cases cause <;> rfl
      · rfl

/-- A key whose press fails, or whose solver breaks down, leaves a coherent session as it was. -/
theorem pressAndSolve_failure (h : Coherent session) {label : String}
    {solver : Option (Solver ε)} {clock : Clock} {failure : OperationFailure ε}
    (hfailure : (pressAndSolve label solver clock).run session = .error failure after) :
    after = session := by
  rw [run_pressAndSolve] at hfailure
  cases hpress : session.press label clock with
  | error cause =>
      rw [hpress] at hfailure
      cases hfailure
      rfl
  | ok outcome =>
      rw [hpress] at hfailure
      simp only at hfailure
      split_ifs at hfailure
      exact eq_of_apply_solve_failure h hfailure

end DeskCalculator.InPlace
