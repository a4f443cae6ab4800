import DeskCalculator.Proofs.Keypad.Orderly
import DeskCalculator.Remote.Client

/-!
# An empty display

An operator is placed by the last character of the display, and so its key fails on a display
without one.  A key with something on its label, and a solver with something in its solutions,
leave something on the display.  What can empty it is a key without a label, where a key takes
the place of what is shown: over the zero at the start, a result or a failure.  That is the only
way: along a run the display stays filled exactly as long as no such key is pressed
(`filled_until_erased`).

## Strategy

A key without a label never fails, and `press_unlabelled` says what it does.  For every other
key each way of changing the display puts something there (`Filled.press`).  Together they say
when an operation empties a display (`filled_apply_iff`), and the rest is induction on the run.
-/

namespace DeskCalculator

open Keypad

/-! ## Texts of results and failures -/

/-- A numeral begins with a digit or a minus. -/
theorem SignedNumeral.exists_head (n : SignedNumeral) :
    ∃ c ∈ n.chars.head?, c.isDigit = true ∨ c = '-' := by
  obtain ⟨first, rest, hwhole⟩ := List.exists_cons_of_ne_nil n.numeral.mantissa.whole_ne_nil
  have hdigit := n.numeral.mantissa.isDigit_whole first (hwhole ▸ List.mem_cons_self)
  unfold chars minus Numeral.chars Surface.Literal.chars
  split_ifs <;> simp [hwhole, hdigit]

/-- The text of a float begins with a digit, a minus or the first letter of a name. -/
theorem exists_head_displayText (v : Float) :
    ∃ c ∈ (displayText v).toList.head?, c.isDigit = true ∨ c ∈ ['-', 'N', 'I'] := by
  cases hfinite : v.isFinite with
  | true =>
      obtain ⟨n, htext, -, -⟩ := exists_numeral_of_displayText hfinite
      obtain ⟨c, hc, hkind⟩ := n.exists_head
      rw [htext]
      exact ⟨c, hc, hkind.imp_right fun hminus => by simp [hminus]⟩
  | false =>
      have hall : ∀ text ∈ ["NaN", "Infinity", "-Infinity"],
          ∃ c ∈ text.toList.head?, c.isDigit = true ∨ c ∈ ['-', 'N', 'I'] := by
        simp
      exact hall _ (displayText_mem_of_not_isFinite hfinite)

theorem FaultKind.label_ne_empty (kind : FaultKind) : kind.label ≠ "" := by
  cases kind <;> decide

/-- The client of the remote model gives no empty solution. -/
theorem Remote.Client.solution_ne_empty [Platform] {client : Client} {equation solution : String}
    {wire : Wire} (h : (client.solve equation wire).outcome = .ok solution) : solution ≠ "" := by
  obtain ⟨answer, -, hanswer⟩ := Expr.bind_eq_ok h
  unfold nonEmpty at hanswer
  split_ifs at hanswer with hempty
  cases hanswer
  rintro rfl
  exact hempty rfl

/-- What is left of the entry has the operator behind it. -/
theorem Keypad.Placed.ne_nil {display entry : List Char} {label : String}
    (h : Placed display label entry) (hlabel : label.toList ≠ []) : entry ≠ [] := by
  cases h <;> exact List.append_ne_nil_of_right_ne_nil _ hlabel

/-! ## Filled displays -/

/-- Whether the solutions of a solver have something in them, where one is asked. -/
def Operation.Answers {ε : Type} : Operation ε → Prop
  | .solve (some ask) _ => ∀ equation solution, ask equation = .solution solution → solution ≠ ""
  | .solve none _ | .press .. | .clearHistory | .setPrecision _ => True

namespace Session

variable {ε : Type} {session next : Session} {label : String} {clock : Clock}
  {action : Option String}

/-- Whether there is something on the display. -/
def Filled (session : Session) : Prop := session.display ≠ []

/-- Whether an operation is a key without a label that takes the place of the display. -/
def Erases (session : Session) : Operation ε → Prop
  | .press label _ => label = "" ∧ session.StartsOver
  | .solve .. | .clearHistory | .setPrecision _ => False

theorem filled_fresh (precision : Precision) : (fresh precision).Filled := List.cons_ne_nil _ _

theorem filled_enter_append {text : List Char} (display : List Char) (h : text ≠ []) :
    (session.enter (display ++ text)).Filled :=
  List.append_ne_nil_of_right_ne_nil display h

theorem filled_fail (session : Session) (kind : FaultKind) : (session.fail kind).Filled :=
  mt String.toList_eq_nil_iff.1 kind.label_ne_empty

private theorem filled_showResult {entry : String} {precision : Precision} {evaluation : Evaluation}
    (h : evaluateEntry entry precision = .ok evaluation) (clock : Clock) :
    (session.showResult evaluation clock).Filled := by
  obtain ⟨v, htext⟩ := exists_displayText_of_evaluateEntry h
  obtain ⟨c, hc, -⟩ := exists_head_displayText v
  show evaluation.result.display.toList ≠ []
  rw [htext]
  exact List.ne_nil_of_mem (List.mem_of_mem_head? hc)

/-! ## Keys -/

/-- A key that is not one of the named ones is taken as it is labelled. -/
theorem press_eq_append (h : label ∉ namedKeys) :
    session.press label clock = (session.append label).map (·, none) := by
  simp only [mem_namedKeys_iff, not_or] at h
  obtain ⟨hfactor, hpanel, hsolve, hclear, hdelete, hequals⟩ := h
  unfold press
  rw [if_neg (by simpa using hfactor), if_neg hpanel, if_neg hsolve, if_neg hclear, if_neg hdelete,
    if_neg hequals]
  rfl

/-- A key without a label takes the place of what is shown, or leaves the entry alone. -/
theorem press_unlabelled (session : Session) (clock : Clock) : session.press "" clock =
    .ok (session.enter (if session.StartsOver then [] else session.display), none) := by
  have hoperator : isOperator "" = false := by decide
  have hsuffix : isSuffix "" = false := by decide
  have happend : session.append "" =
      .ok (session.enter (if session.StartsOver then [] else session.display)) := by
    unfold append StartsOver
    by_cases herror : session.mode = .error
    · simp [herror, hoperator]
    by_cases hresult : session.mode = .evaluated
    · simp [hresult, hoperator, hsuffix]
    by_cases hzero : session.display = ['0']
    · simp [herror, hresult, hzero, hoperator, hsuffix]
    · simp [herror, hresult, hzero, hoperator]
  rw [press_eq_append (by decide), happend]
  rfl

theorem FactorPlaced.ne_nil {factor entry : List Char} (h : FactorPlaced session factor entry)
    (hfactor : factor ≠ []) : entry ≠ [] := by
  cases h with
  | replacing => exact hfactor
  | times => exact List.append_ne_nil_of_right_ne_nil _ (List.cons_ne_nil _ _)
  | behind => exact List.append_ne_nil_of_right_ne_nil _ hfactor

theorem Appended.filled (h : Appended session label next) (hfilled : session.Filled)
    (hlabel : label.toList ≠ []) : next.Filled := by
  cases h with
  | behindFailure | secondPoint | otherOperator => exact hfilled
  | sign => exact List.cons_ne_nil _ _
  | operator _ hplaced => exact hplaced.ne_nil hlabel
  | replacing => exact hlabel
  | behind => exact filled_enter_append _ hlabel

theorem Equalled.filled (h : Equalled session clock next action) (hfilled : session.Filled) :
    next.Filled := by
  cases h with
  | stay => exact hfilled
  | equation => exact filled_enter_append _ (List.cons_ne_nil _ _)
  | result _ hvalue => exact filled_showResult hvalue clock
  | fault kind => exact filled_fail session kind

/-- A key with a label leaves something on the display. -/
theorem Filled.press (h : session.Filled) (hlabel : label ≠ "")
    (hpress : session.press label clock = .ok (next, action)) : next.Filled := by
  have htext := mt String.toList_eq_nil_iff.1 hlabel
  cases Pressed.of_press hpress with
  | factor _ hfactor =>
      refine hfactor.ne_nil ?_
      unfold factorText
      split_ifs
      · exact List.append_ne_nil_of_right_ne_nil _ (List.cons_ne_nil _ _)
      · exact htext
  | panel | solve => exact h
  | clear => exact List.cons_ne_nil _ _
  | delete _ hlong =>
      have hlength : session.display.dropLast.length ≠ 0 := by
        rw [List.length_dropLast]
        omega
      exact mt List.length_eq_zero_iff.2 hlength
  | equals _ hequalled => exact hequalled.filled h
  | character _ happended => exact happended.filled h htext

/-! ## Failures -/

private theorem appendOperator_eq_error_iff {failure : PressFailure} :
    session.appendOperator label = .error failure ↔
      ¬ session.Filled ∧ failure = .emptyDisplay := by
  unfold appendOperator Filled
  simp only
  cases hlast : session.display.getLast? with
  | none =>
      rw [List.getLast?_eq_none_iff] at hlast
      simp [hlast, eq_comm]
  | some last =>
      have hfilled : session.display ≠ [] := by
        intro hempty
        rw [hempty] at hlast
        cases hlast
      refine iff_of_false (fun herror => ?_) fun hempty => hempty.1 hfilled
      simp only at herror
      split_ifs at herror

theorem append_eq_error_iff {failure : PressFailure} :
    session.append label = .error failure ↔
      ¬ session.Filled ∧ isOperator label = true ∧ session.mode ≠ .error ∧
        failure = .emptyDisplay := by
  by_cases hoperator : isOperator label = true
  · have hpoint : label ≠ "." := by
      rintro rfl
      exact absurd hoperator (by decide)
    unfold append
    by_cases herror : session.mode = .error
    · simp [herror]
    by_cases hzero : session.display = ['0']
    · simp [herror, hoperator, hpoint, hzero, Filled]
    · simp [herror, hoperator, hpoint, hzero, appendOperator_eq_error_iff]
  · refine iff_of_false (fun herror => ?_) fun h => hoperator h.2.1
    unfold append at herror
    simp only [hoperator, Bool.false_eq_true, if_false] at herror
    split_ifs at herror

private theorem equals_ne_emptyDisplay : session.equals clock ≠ .error .emptyDisplay := by
  intro h
  unfold equals at h
  simp only at h
  split at h
  · cases h
  split at h
  · split at h <;> cases h
  · split at h <;> cases h

/-- Only an operator needs a last character. -/
theorem press_eq_emptyDisplay_iff : session.press label clock = .error .emptyDisplay ↔
    ¬ session.Filled ∧ isOperator label = true ∧ session.mode ≠ .error := by
  have happend : session.append label = .error .emptyDisplay ↔
      ¬ session.Filled ∧ isOperator label = true ∧ session.mode ≠ .error := by
    simp [append_eq_error_iff]
  rw [← happend]
  constructor
  · intro h
    unfold press at h
    split_ifs at h with hfactor hpanel hsolve hclear hdelete hequals
    · exact absurd h equals_ne_emptyDisplay
    · cases hnext : session.append label with
      | ok next => simp [hnext] at h
      | error failure => simpa [hnext] using h
  · intro h
    rw [press_eq_append (notMem_namedKeys_of_isOperator (happend.1 h).2.1), h]
    rfl

/-! ## Runs -/

theorem Filled.solve (h : session.Filled) {solver : Option (Solver ε)}
    (hanswers : (Operation.solve solver clock).Answers) :
    (session.solve solver clock).1.Filled := by
  unfold Session.solve
  split_ifs
  · exact filled_fail session _
  cases solver with
  | none => exact filled_fail session _
  | some ask =>
      simp only
      cases hask : ask (String.ofList session.display) with
      | solution text => exact mt String.toList_eq_nil_iff.1 (hanswers _ _ hask)
      | failed => exact filled_fail _ _
      | broken failure => exact h

/-- Only a key without a label empties the display. -/
theorem filled_apply_iff (h : session.Filled) {operation : Operation ε}
    (hanswers : operation.Answers) :
    (session.apply operation).1.Filled ↔ ¬ session.Erases operation := by
  cases operation with
  | press label clock =>
      rw [apply]
      by_cases hlabel : label = ""
      · subst hlabel
        rw [press_unlabelled]
        by_cases hstart : session.StartsOver
        · rw [if_pos hstart]
          exact iff_of_false (not_not_intro rfl) (not_not_intro ⟨rfl, hstart⟩)
        · rw [if_neg hstart]
          exact iff_of_true h fun herases => hstart herases.2
      · refine iff_of_true ?_ fun herases => hlabel herases.1
        cases hpress : session.press label clock with
        | error failure => exact h
        | ok outcome => exact h.press hlabel hpress
  | solve solver clock => exact iff_of_true (h.solve hanswers) id
  | clearHistory | setPrecision => exact iff_of_true h id

/-- The display stays filled along a run exactly as long as nothing empties it. -/
theorem filled_run_iff (h : session.Filled) {operations : List (Operation ε)}
    (hanswers : ∀ operation ∈ operations, operation.Answers) :
    (∀ earlier, earlier <+: operations → (session.run earlier).Filled) ↔
      ∀ earlier operation, earlier ++ [operation] <+: operations →
        ¬ (session.run earlier).Erases operation := by
  refine forall_prefix_iff h fun earlier operation hbegins hfilled => ?_
  have hmem := hbegins.mem (List.mem_append_right _ List.mem_cons_self)
  exact filled_apply_iff hfilled (hanswers operation hmem)

/-- From the start, if solvers have something to say: there is something on the display, and no key
fails for want of a last character, exactly as long as no key without a label takes the place of
what is shown.  A key that fails so is an operator on an empty display.  And the client of the
remote model always has something to say. -/
theorem filled_until_erased [Platform] (precision : Precision) (operations : List (Operation ε))
    (hanswers : ∀ operation ∈ operations, operation.Answers) :
    ((∀ earlier, earlier <+: operations → ((fresh precision).run earlier).display ≠ [] ∧
        ∀ label clock, ((fresh precision).run earlier).press label clock ≠ .error .emptyDisplay) ↔
      ∀ earlier operation, earlier ++ [operation] <+: operations →
        ¬ ((fresh precision).run earlier).Erases operation) ∧
    (∀ (session : Session) label clock, session.press label clock = .error .emptyDisplay ↔
      session.display = [] ∧ isOperator label = true ∧ session.mode ≠ .error) ∧
    ∀ (client : Remote.Client) equation wire solution,
      (client.solve equation wire).outcome = .ok solution → solution ≠ "" := by
  refine ⟨?_, fun session label clock => ?_, fun client equation wire solution =>
    Remote.Client.solution_ne_empty⟩
  · rw [← filled_run_iff (filled_fresh precision) hanswers]
    refine forall₂_congr fun earlier _ => and_iff_left_of_imp fun hfilled label clock hfails => ?_
    exact (press_eq_emptyDisplay_iff.1 hfails).1 hfilled
  · rw [press_eq_emptyDisplay_iff, Filled, not_not]

/-- An equation that is solved, and an operator behind its solution. -/
theorem filled_until_erased_solved :
    let solver : Solver Empty := fun _ => .solution "2"
    let operations : List (Operation Empty) := [.press "x" ⟨0, 0⟩, .press "=" ⟨0, 0⟩,
      .press "2" ⟨0, 0⟩, .solve (some solver) ⟨0, 0⟩, .press "+" ⟨0, 0⟩]
    (∀ operation ∈ operations, operation.Answers) ∧
      ((fresh none).run operations).display = "2+".toList ∧
      ∀ earlier, earlier <+: operations → ((fresh none).run earlier).display ≠ [] ∧
        ∀ label clock, ((fresh none).run earlier).press label clock ≠ .error .emptyDisplay := by
  intro solver operations
  have hanswers : ∀ operation ∈ operations, operation.Answers := by
    simp [operations, Operation.Answers, solver]
  refine ⟨hanswers, by decide +kernel, (filled_until_erased none operations hanswers).1.2 ?_⟩
  intro earlier operation hbegins herases
  have hmem := hbegins.mem (List.mem_append_right _ List.mem_cons_self)
  have hlabels : ∀ operation ∈ operations, ∀ session : Session, ¬ session.Erases operation := by
    simp [operations, Erases]
  exact hlabels operation hmem _ herases

/-- A key without a label empties the display at the start, and an operator fails there. -/
theorem unlabelled_key_empties_display :
    let operations : List (Operation Empty) := [.press "" ⟨0, 0⟩]
    ((fresh none).run operations).display = [] ∧
      ((fresh none).run operations).press "+" ⟨0, 0⟩ = .error .emptyDisplay :=
  ⟨by decide +kernel, rfl⟩

end Session

end DeskCalculator
