import DeskCalculator.Keypad.Press
import DeskCalculator.Proofs.Expr.Machine

/-!
# What a key does

What comes of a key depends on the label, the mode and the end of the display.  Here it is said
once, by relations with a constructor for each way in which a key can be taken: `Pressed` for all
keys, on top of `FactorPlaced` for those that start a factor, `Placed` for operators, `Appended`
for labels that are put on the display as they are, and `Equalled` for the key of the result.  A
key that does not fail is taken in one of these ways (`Pressed.of_press`), and what is proved of
keys goes by their cases.
-/

namespace DeskCalculator

open Keypad

namespace Keypad

variable {label : String}

/-- The keys whose label is not just put at the end. -/
def namedKeys : List String :=
  functionKeys ++ constantKeys ++ panelKeys ++ ["(", "=", "C", "DEL", "Solve"]

theorem mem_namedKeys_iff : label ∈ namedKeys ↔
    (label ∈ functionKeys ∨ label ∈ constantKeys ∨ label = "(") ∨ label ∈ panelKeys ∨
      label = "Solve" ∨ label = "C" ∨ label = "DEL" ∨ label = "=" := by
  simp only [namedKeys, List.mem_append, List.mem_cons, List.not_mem_nil, or_false]
  tauto

/-- What a key that starts a factor puts on the display. -/
def factorText (label : String) : List Char :=
  if label ∈ functionKeys then label.toList ++ ['('] else label.toList

/-- How an operator is put on a display; the entry is what then stands there. -/
inductive Placed (display : List Char) (label : String) : List Char → Prop
  /-- An operand has come last. -/
  | behindOperand {before : List Char} {last : Char} (ends : display = before ++ [last])
      (operand : last ∉ Entry.operators) : Placed display label (display ++ label.toList)
  /-- The operator is the sign of the operand to come. -/
  | sign {before : List Char} {last : Char} (ends : display = before ++ [last])
      (minus : label = "-") (place : last ∈ signPlaces) :
      Placed display label (display ++ label.toList)
  /-- An operator and the sign behind it give way. -/
  | forTwo {before : List Char} {second last : Char} (ends : display = before ++ [second, last])
      (operator : second ∈ Entry.operators) (sign : last ∈ Entry.operators) :
      Placed display label (before ++ label.toList)
  /-- A single operator gives way. -/
  | forOne {before : List Char} {last : Char} (ends : display = before ++ [last])
      (operator : last ∈ Entry.operators) (single : ∀ c ∈ before.getLast?, c ∉ Entry.operators) :
      Placed display label (before ++ label.toList)

end Keypad

namespace Session

variable {session next : Session} {label : String} {clock : Clock} {action : Option String}

/-- Whether a character takes the place of what is on the display. -/
def StartsOver (session : Session) : Prop :=
  session.display = ['0'] ∨ session.mode = .error ∨ session.mode = .evaluated

instance (session : Session) : Decidable session.StartsOver :=
  inferInstanceAs (Decidable (_ ∨ _ ∨ _))

/-! ## The ways in which a key can be taken -/

/-- How a factor is put on the display; the entry is what then stands there. -/
inductive FactorPlaced (session : Session) (factor : List Char) : List Char → Prop
  | replacing (start : session.StartsOver) : FactorPlaced session factor factor
  /-- A multiplication is understood. -/
  | times (product : impliesProduct session.display = true) :
      FactorPlaced session factor (session.display ++ '*' :: factor)
  | behind (single : impliesProduct session.display = false) :
      FactorPlaced session factor (session.display ++ factor)

/-- How a key is taken whose label is put on the display as it is. -/
inductive Appended (session : Session) (label : String) : Session → Prop
  /-- No operator is put behind the label of a failure. -/
  | behindFailure (failure : session.mode = .error) : Appended session label session
  /-- A number has one point. -/
  | secondPoint (point : label = ".") (taken : '.' ∈ lastSegment session.display) :
      Appended session label session
  /-- Of the operators, only a sign takes the place of the zero at the start. -/
  | sign (zero : session.display = ['0']) (minus : label = "-") :
      Appended session label (session.enter ['-'])
  | otherOperator (zero : session.display = ['0']) (operator : isOperator label = true)
      (other : label ≠ "-") : Appended session label session
  | operator {entry : List Char} (operator : isOperator label = true)
      (placed : Placed session.display label entry) : Appended session label (session.enter entry)
  | replacing (character : ¬ isOperator label = true) (start : session.StartsOver) :
      Appended session label (session.enter label.toList)
  | behind (character : ¬ isOperator label = true)
      (point : label = "." → '.' ∉ lastSegment session.display) :
      Appended session label (session.enter (session.display ++ label.toList))

/-- How the key for the result is taken, and what it asks for. -/
inductive Equalled (session : Session) (clock : Clock) : Session → Option String → Prop
  /-- A failure stays, and so does an equation that has its sign. -/
  | stay (action : Option String) : Equalled session clock session action
  /-- An equation gets its sign. -/
  | equation : Equalled session clock (session.enter (session.display ++ ['='])) none
  /-- An entry without a variable has got a value. -/
  | result {evaluation : Evaluation} (entry : session.display.any isVariable = false)
      (value : evaluateEntry (String.ofList session.display) session.precision = .ok evaluation) :
      Equalled session clock (session.showResult evaluation clock) none
  /-- It has none. -/
  | fault (kind : FaultKind) : Equalled session clock (session.fail kind) none

/-- How a key is taken, and what it asks for. -/
inductive Pressed (session : Session) (label : String) (clock : Clock) :
    Session → Option String → Prop
  | factor {entry : List Char}
      (key : label ∈ functionKeys ∨ label ∈ constantKeys ∨ label = "(")
      (placed : FactorPlaced session (factorText label) entry) :
      Pressed session label clock (session.enter entry) none
  | panel (key : label ∈ panelKeys) :
      Pressed session label clock { session with panel := some label } (some label)
  | solve (key : label = "Solve") : Pressed session label clock session (some solveAction)
  /-- There is a zero on the display again. -/
  | clear (key : label = "C" ∨ label = "DEL") :
      Pressed session label clock (session.enter ['0']) none
  | delete (key : label = "DEL") (long : 1 < session.display.length) :
      Pressed session label clock (session.enter session.display.dropLast) none
  | equals {next : Session} {action : Option String} (key : label = "=")
      (equalled : Equalled session clock next action) :
      Pressed session label clock next action
  | character {next : Session} (key : label ∉ namedKeys) (appended : Appended session label next) :
      Pressed session label clock next none

/-! ## Every key is taken in one of these ways -/

theorem exists_factorPlaced (session : Session) (label : String) :
    ∃ entry, FactorPlaced session (factorText label) entry ∧
      session.appendFactor label = session.enter entry := by
  have hcases : session.appendFactor label =
      if session.StartsOver then session.enter (factorText label)
      else if impliesProduct session.display then
        session.enter (session.display ++ '*' :: factorText label)
      else session.enter (session.display ++ factorText label) := rfl
  rw [hcases]
  split_ifs with hstart hproduct
  · exact ⟨_, .replacing hstart, rfl⟩
  · exact ⟨_, .times hproduct, rfl⟩
  · exact ⟨_, .behind (Bool.eq_false_iff.2 hproduct), rfl⟩

theorem exists_placed (h : session.appendOperator label = .ok next) :
    ∃ entry, Placed session.display label entry ∧ next = session.enter entry := by
  unfold appendOperator at h
  simp only at h
  split at h
  · cases h
  next last hlast =>
  obtain ⟨before, hends⟩ := List.getLast?_eq_some_iff.1 hlast
  have hbefore : session.display.dropLast = before := by
    rw [hends, List.dropLast_concat]
  rw [hbefore] at h
  split_ifs at h with hoperator hsign hsecond <;> cases h
  · exact ⟨_, .sign hends hsign.1 hsign.2, rfl⟩
  · obtain ⟨second, hmem, hfirst⟩ := (Option.any_eq_true _ _).1 hsecond
    obtain ⟨front, rfl⟩ := List.getLast?_eq_some_iff.1 hmem
    rw [List.append_assoc] at hends
    rw [List.dropLast_concat]
    exact ⟨_, .forTwo hends (of_decide_eq_true hfirst) hoperator, rfl⟩
  · refine ⟨_, .forOne hends hoperator fun c hc hmem => hsecond ?_, rfl⟩
    exact (Option.any_eq_true _ _).2 ⟨c, hc, decide_eq_true hmem⟩
  · exact ⟨_, .behindOperand hends hoperator, rfl⟩

theorem Appended.of_append (h : session.append label = .ok next) :
    Appended session label next := by
  unfold append at h
  simp only at h
  split_ifs at h with hfailure hoperator hresult hpoint hoperator hzero hminus hstart
  · cases h
    exact .behindFailure hfailure
  · cases h
    exact .replacing hoperator (.inr (.inl hfailure))
  · cases h
    exact .replacing hresult.2.1 (.inr (.inr hresult.1))
  · cases h
    exact .secondPoint hpoint.1 hpoint.2
  · cases h
    exact .sign hzero hminus
  · cases h
    exact .otherOperator hzero hoperator hminus
  · obtain ⟨entry, hplaced, rfl⟩ := exists_placed h
    exact .operator hoperator hplaced
  · cases h
    exact .replacing hoperator (.inl hstart.1)
  · cases h
    exact .behind hoperator fun hlabel hmem => hpoint ⟨hlabel, hmem⟩

theorem Equalled.of_equals (h : session.equals clock = .ok (next, action)) :
    Equalled session clock next action := by
  unfold equals at h
  simp only at h
  split at h
  · cases h
    exact .stay none
  split at h
  · split at h
    · cases h
      exact .stay _
    · split_ifs at h <;> cases h
      · exact .stay none
      · exact .equation
  · next hvariable =>
      split at h
      · next evaluation hvalue =>
          cases h
          exact .result (Bool.eq_false_iff.2 hvariable) hvalue
      · cases h
        exact .fault _
      · cases h

theorem Pressed.of_delete (key : label = "DEL") :
    Pressed session label clock session.delete none := by
  unfold Session.delete
  split_ifs with hshort
  · exact .clear (.inr key)
  · rw [not_or, not_le] at hshort
    exact .delete key hshort.2

/-- A key that does not fail is taken in one of the ways. -/
theorem Pressed.of_press (h : session.press label clock = .ok (next, action)) :
    Pressed session label clock next action := by
  unfold press at h
  split_ifs at h with hfactor hpanel hsolve hclear hdelete hequals
  · cases h
    obtain ⟨entry, hentry, heq⟩ := exists_factorPlaced session label
    exact heq ▸ .factor hfactor hentry
  · cases h
    exact .panel hpanel
  · cases h
    exact .solve hsolve
  · cases h
    exact .clear (.inl hclear)
  · cases h
    exact .of_delete hdelete
  · exact .equals hequals (.of_equals h)
  · obtain ⟨appended, happended, h⟩ := Expr.bind_eq_ok h
    cases h
    have hother : label ∉ namedKeys := mt mem_namedKeys_iff.1 (by tauto)
    exact .character hother (.of_append happended)

end Session

end DeskCalculator
