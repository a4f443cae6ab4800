import DeskCalculator.Proofs.Entry.OpenOperator
import DeskCalculator.Proofs.Keypad.Run

/-!
# The history can be replayed

The history is written from the front: an operation leaves it alone, puts one
line in front of it, or empties it (`history_apply`).  A line of a run was
therefore written by one of the operations, on top of the lines behind it, and
nothing has touched it since (`exists_recording`).

A line that is not a solution holds the expression of an evaluation, and that
evaluates to the same again (`evaluateEntry_expression`).  So each such line can
be replayed with the precision that it was written with.
-/

namespace DeskCalculator

/-- Whether evaluating the expression of a line once more, with this precision, gives the line: the
same expression, and its result as what is displayed. -/
def HistoryEntry.Replays (entry : HistoryEntry) (precision : Precision) : Prop :=
  ∃ evaluation, evaluateEntry entry.expression precision = .ok evaluation ∧
    evaluation.expression = entry.expression ∧ evaluation.result.display = entry.result

namespace Session

variable {ε : Type} {session next : Session}

/-! ## One operation -/

/-- Whether one line has been put in front of a history, and can be replayed unless it is a
solution. -/
def Records (session : Session) (history : List HistoryEntry) : Prop :=
  ∃ entry, history = entry :: session.history ∧
    (entry.solved = false → entry.Replays session.precision)

theorem Move.history (move : Move session next) :
    next.history = session.history ∨ session.Records next.history := by
  cases move with
  | stay | enter | fail | openPanel | refusal | breakdown => exact .inl rfl
  | result clock entry value =>
      exact .inr ⟨_, rfl, fun _ => ⟨_, evaluateEntry_expression value, rfl, rfl⟩⟩
  | solution text clock equation => exact .inr ⟨_, rfl, nofun⟩

/-- What an operation does to the history. -/
theorem history_apply (session : Session) (operation : Operation ε) :
    (session.apply operation).1.history = session.history ∨
      session.Records (session.apply operation).1.history ∨
      operation = .clearHistory ∧ (session.apply operation).1.history = [] := by
  cases operation with
  | press label clock =>
      rw [apply]
      cases hpress : session.press label clock with
      | error failure => exact .inl rfl
      | ok outcome => exact (move_press hpress).history.imp_right .inl
  | solve solver clock => exact (move_solve session solver clock).history.imp_right .inl
  | clearHistory => exact .inr (.inr ⟨rfl, rfl⟩)
  | setPrecision precision => exact .inl rfl

/-! ## Runs -/

/-- Whether one of the operations has written `entry` in front of `older` and those behind it have
kept these lines, and the entry can be replayed, unless it is a solution, with the precision that it
was written with. -/
def Recorded (session : Session) (operations : List (Operation ε)) (entry : HistoryEntry)
    (older : List HistoryEntry) : Prop :=
  ∃ before operation later, operations = before ++ operation :: later ∧
    (session.run before).history = older ∧
    (session.run (before ++ [operation])).history = entry :: older ∧
    (∀ done, done <+: later →
      entry :: older <:+ (session.run (before ++ operation :: done)).history) ∧
    (entry.solved = false → entry.Replays (session.run before).precision)

theorem run_concat (session : Session) (operations : List (Operation ε))
    (operation : Operation ε) :
    session.run (operations ++ [operation]) = ((session.run operations).apply operation).1 := by
  rw [run_append, run_cons, run_nil]

variable {operations : List (Operation ε)} {entry : HistoryEntry} {older : List HistoryEntry}

/-- A line that is still there after one more operation is as it was. -/
theorem Recorded.concat (h : Recorded session operations entry older) (operation : Operation ε)
    (hkept : entry :: older <:+ (session.run (operations ++ [operation])).history) :
    Recorded session (operations ++ [operation]) entry older := by
  obtain ⟨before, recording, later, rfl, holder, hentry, hlater, hreplays⟩ := h
  refine ⟨before, recording, later ++ [operation], by simp, holder, hentry, ?_, hreplays⟩
  intro done hdone
  rcases List.prefix_concat_iff.1 hdone with rfl | hdone
  · simpa using hkept
  · exact hlater done hdone

/-- Every line of a history was written by some operation, and has been kept since. -/
theorem exists_recording (hstart : session.history = []) (operations : List (Operation ε)) :
    ∀ entry older, entry :: older <:+ (session.run operations).history →
      Recorded session operations entry older := by
  -- from the end of the run: only the last operation can have touched an older line
  induction operations using List.reverseRecOn with
  | nil =>
      intro entry older h
      rw [run_nil, hstart, List.suffix_nil] at h
      cases h
  | append_singleton operations operation ih =>
      intro entry older h
      have hrun := run_concat session operations operation
      rcases history_apply (session.run operations) operation with
        hsame | ⟨line, hline, hreplays⟩ | ⟨-, hnone⟩
      · rw [hrun, hsame] at h
        refine (ih entry older h).concat operation ?_
        rwa [hrun, hsame]
      · have hhistory := hline
        rw [← hrun] at hhistory
        rw [hhistory] at h
        -- the entry is the line that has just been written, or it was there before
        rcases List.suffix_cons_iff.1 h with hnew | hold
        · obtain ⟨rfl, rfl⟩ := List.cons.inj hnew
          refine ⟨operations, operation, [], rfl, rfl, hhistory, ?_, hreplays⟩
          intro done hdone
          rw [List.prefix_nil.1 hdone, hhistory]
        · refine (ih entry older hold).concat operation ?_
          rwa [hhistory]
      · rw [hrun, hnone, List.suffix_nil] at h
        cases h

/-- In a run each operation leaves the history alone, puts one line in front of it or, where it
forgets the history, empties it.  Each line that is there was written by one of the operations, and
if it is no solution, evaluating its expression with the precision of that time gives it again. -/
theorem history_replays (precision : Precision) (operations : List (Operation ε)) :
    (∀ operation,
      let history := ((fresh precision).run operations).history
      let after := ((fresh precision).run (operations ++ [operation])).history
      after = history ∨ (∃ entry, after = entry :: history) ∨
        operation = .clearHistory ∧ after = []) ∧
    ∀ entry older, entry :: older <:+ ((fresh precision).run operations).history →
      Recorded (fresh precision) operations entry older := by
  refine ⟨?_, exists_recording rfl operations⟩
  intro operation history after
  have hafter : after = (((fresh precision).run operations).apply operation).1.history :=
    congrArg Session.history (run_concat _ operations operation)
  rw [hafter]
  rcases history_apply ((fresh precision).run operations) operation with
    hsame | ⟨entry, hentry, -⟩ | hnone
  · exact .inl hsame
  · exact .inr (.inl ⟨entry, hentry⟩)
  · exact .inr (.inr hnone)

/-- Two thirds with two places, of which the history keeps neither the open operator nor the
precision that is chosen afterwards. -/
theorem history_replays_thirds :
    let operations : List (Operation Empty) := [.setPrecision (some 2), .press "2/3+" ⟨0, 0⟩,
      .press "=" ⟨0, 0⟩, .setPrecision none]
    [⟨"2/3", "0.67", "00:00", false⟩] <:+ ((fresh none).run operations).history ∧
      Recorded (fresh none) operations ⟨"2/3", "0.67", "00:00", false⟩ [] := by
  intro operations
  have hkept : [⟨"2/3", "0.67", "00:00", false⟩] <:+ ((fresh none).run operations).history := by
    decide +kernel
  exact ⟨hkept, (history_replays none operations).2 _ _ hkept⟩

end Session

end DeskCalculator
