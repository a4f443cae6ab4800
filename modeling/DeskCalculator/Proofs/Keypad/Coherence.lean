import DeskCalculator.Proofs.Keypad.Run
import DeskCalculator.Proofs.Result.Display

/-!
# The parts of a session fit together

The mode of a session says what stands on its display, and the fraction hint and
the history go with the result that is shown.  `Coherent` is the whole of these
relations.  A fresh session is coherent and every step keeps it so, hence a
session is coherent after every operation of every run (`coherent_run`).
-/

namespace DeskCalculator.Session

open Keypad

variable {ε : Type}

/-- How the parts of a session belong together between two operations. -/
structure Coherent (session : Session) : Prop where
  /-- Nothing is being solved. -/
  settled : session.isSolving = false
  /-- Before anything is entered there is a zero on the display. -/
  idle : session.mode = .idle → session.display = ['0']
  /-- What is being entered is not that zero. -/
  editing : session.mode = .editing → session.display ≠ ['0']
  /-- A failure is shown by its label. -/
  error : session.mode = .error → ∃ kind : FaultKind, session.display = kind.label.toList
  /-- Only a result without variables has a fraction hint. -/
  hint : session.fraction ≠ none →
    session.mode = .evaluated ∧ session.display.any isVariable = false
  /-- The result that is shown is the newest of the history, unless that has been forgotten. -/
  newest : session.mode = .evaluated →
    session.history = [] ∨ ∃ entry older, session.history = entry :: older ∧
      entry.result = String.ofList session.display

theorem coherent_fresh (precision : Precision) : Coherent (fresh precision) where
  settled := rfl
  idle _ := rfl
  editing := nofun
  error := nofun
  hint h := absurd rfl h
  newest := nofun

/-! ## What is shown -/

private theorem not_isVariable_of_isNumeric {c : Char} (h : isNumeric c = true) :
    isVariable c = false := by
  rw [Bool.eq_false_iff]
  intro hvariable
  have hmem : c = 'x' ∨ c = 'y' ∨ c = 'z' := by simpa [isVariable] using hvariable
  rcases hmem with rfl | rfl | rfl <;> exact absurd h (by decide)

/-- A result with a fraction hint shows no variable. -/
theorem any_isVariable_of_evaluateEntry {entry : String} {precision : Precision}
    {evaluation : Evaluation} (h : evaluateEntry entry precision = .ok evaluation)
    (hfraction : evaluation.result.fraction ≠ none) :
    evaluation.result.display.toList.any isVariable = false := by
  rw [List.any_eq_false]
  intro c hc
  rw [Bool.not_eq_true]
  exact not_isVariable_of_isNumeric (isNumeric_of_evaluateEntry h hfraction c hc)

/-! ## Every step keeps a session coherent -/

variable {session next : Session}

theorem Coherent.enter (h : Coherent session) (display : List Char) :
    Coherent (session.enter display) := by
  have hmode : (session.enter display).mode = if display = ['0'] then .idle else .editing := rfl
  by_cases hzero : display = ['0']
  · rw [if_pos hzero] at hmode
    exact ⟨h.settled, fun _ => hzero, by simp [hmode], by simp [hmode], fun hhint => absurd rfl hhint,
      by simp [hmode]⟩
  · rw [if_neg hzero] at hmode
    exact ⟨h.settled, by simp [hmode], fun _ => hzero, by simp [hmode],
      fun hhint => absurd rfl hhint, by simp [hmode]⟩

theorem Coherent.fail (h : Coherent session) (kind : FaultKind) : Coherent (session.fail kind) where
  settled := h.settled
  idle := nofun
  editing := nofun
  error _ := ⟨kind, rfl⟩
  hint hhint := absurd rfl hhint
  newest := nofun

theorem Coherent.showResult (h : Coherent session) {entry : String} {precision : Precision}
    {evaluation : Evaluation} (value : evaluateEntry entry precision = .ok evaluation)
    (clock : Clock) : Coherent (session.showResult evaluation clock) where
  settled := h.settled
  idle := nofun
  editing := nofun
  error := nofun
  hint hhint := ⟨rfl, any_isVariable_of_evaluateEntry value hhint⟩
  newest _ := .inr ⟨_, _, rfl, String.ofList_toList.symm⟩

theorem Coherent.awaiting_answered (h : Coherent session) :
    Coherent session.awaiting.answered where
  settled := rfl
  idle := h.idle
  editing := h.editing
  error := h.error
  hint hhint := absurd rfl hhint
  newest := h.newest

theorem Coherent.showSolution (equation solution : String) (clock : Clock) :
    Coherent (session.awaiting.answered.showSolution equation solution clock) where
  settled := rfl
  idle := nofun
  editing := nofun
  error := nofun
  hint hhint := absurd rfl hhint
  newest _ := .inr ⟨_, _, rfl, String.ofList_toList.symm⟩

theorem Coherent.move (h : Coherent session) (move : Move session next) : Coherent next := by
  cases move with
  | stay => exact h
  | enter display => exact h.enter display
  | fail kind => exact h.fail kind
  | openPanel label key => exact ⟨h.settled, h.idle, h.editing, h.error, h.hint, h.newest⟩
  | result clock entry value => exact h.showResult value clock
  | solution text clock equation => exact .showSolution _ text clock
  | refusal equation => exact h.awaiting_answered.fail _
  | breakdown equation => exact h.awaiting_answered

theorem Coherent.step (h : Coherent session) (step : Step session next) : Coherent next := by
  cases step with
  | move move => exact h.move move
  | clearHistory => exact ⟨h.settled, h.idle, h.editing, h.error, h.hint, fun _ => .inl rfl⟩
  | setPrecision precision => exact ⟨h.settled, h.idle, h.editing, h.error, h.hint, h.newest⟩

theorem Coherent.run (h : Coherent session) (operations : List (Operation ε)) :
    Coherent (session.run operations) :=
  run_induction (fun _ _ => Coherent.step) operations h

/-- Whatever is done with a fresh session, its parts fit together afterwards. -/
theorem coherent_run (precision : Precision) (operations : List (Operation ε)) :
    Coherent ((fresh precision).run operations) :=
  (coherent_fresh precision).run operations

end DeskCalculator.Session
