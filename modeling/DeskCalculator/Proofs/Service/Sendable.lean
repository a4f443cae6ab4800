import DeskCalculator.Proofs.Keypad.Run
import DeskCalculator.Proofs.Result.Shown
import DeskCalculator.Service.Response

/-!
# Sessions that can be sent

A session is shown with its whole history, so one line that cannot be encoded keeps
all that is shown later from being sent.  Lines that come from evaluating are never
like that (`presentable_run`).  What is left are the solutions, whose texts come from
outside: once a result is on the display, they alone decide whether the session can be
sent (`isSendable_sessionJson`).
-/

namespace DeskCalculator

open Text

variable [Platform]

namespace Json

theorem isSendable_list (items : List Json) : (list items).isSendable = items.all isSendable := by
  rw [isSendable]
  induction items with
  | nil => rfl
  | cons item items ih => rw [areSendable, ih, List.all_cons]

theorem isSendable_object (fields : Fields) : (object fields).isSendable =
    fields.all fun field => isEncodable field.1.toList && field.2.isSendable := by
  rw [isSendable]
  induction fields with
  | nil => rfl
  | cons field fields ih => rw [fieldsAreSendable, ih, List.all_cons]

/-- If its keys are within ASCII, the values of an object decide. -/
theorem isSendable_object_of_ascii {fields : Fields}
    (h : (fields.all fun field => field.1.toList.all (·.toNat < 128)) = true) :
    (object fields).isSendable = fields.all fun field => field.2.isSendable := by
  rw [isSendable_object, Bool.eq_iff_iff, List.all_eq_true, List.all_eq_true]
  refine forall₂_congr fun field hfield => ?_
  rw [isEncodable_of_all (List.all_eq_true.1 h field hfield), Bool.true_and]

theorem isSendable_ofText? (value : Option String) :
    (ofText? value).isSendable = value.all fun text => isEncodable text.toList := by
  cases value <;> rfl

end Json

/-! ## Texts of the calculator -/

private theorem isEncodable_toString (number : ℕ) :
    isEncodable (toString number).toList = true := by
  refine isEncodable_of_isShown fun c hc => ?_
  rw [Nat.toString_eq_ofList_toDigits, String.toList_ofList] at hc
  exact isShown_of_isDigit (Nat.isDigit_of_mem_toDigits (by decide) (le_refl 10) hc)

private theorem isEncodable_twoDigits (number : ℕ) :
    isEncodable (twoDigits number).toList = true := by
  unfold twoDigits
  split_ifs
  · have htext : s!"0{number}" = "0" ++ toString number := rfl
    rw [htext, String.toList_append, isEncodable_append, isEncodable_toString, Bool.and_true]
    exact isEncodable_of_all (by decide)
  · exact isEncodable_toString number

private theorem isEncodable_clock (clock : Clock) : isEncodable clock.text.toList = true := by
  have htext : clock.text = twoDigits clock.hour ++ ":" ++ twoDigits clock.minute := rfl
  rw [htext, String.toList_append, String.toList_append, isEncodable_append, isEncodable_append,
    isEncodable_twoDigits, isEncodable_twoDigits, Bool.and_true, Bool.true_and]
  exact isEncodable_of_all (by decide)

theorem isEncodable_label (kind : FaultKind) : isEncodable kind.label.toList = true := by
  cases kind <;> exact isEncodable_of_all (by decide)

theorem isEncodable_name (kind : FaultKind) : isEncodable kind.name.toList = true := by
  cases kind <;> exact isEncodable_of_all (by decide)

private theorem isEncodable_modeName (mode : Mode) : isEncodable mode.name.toList = true := by
  cases mode <;> exact isEncodable_of_all (by decide)

private theorem isEncodable_of_mem_panelKeys :
    ∀ label ∈ Keypad.panelKeys, isEncodable label.toList = true := by
  have hascii : ∀ label ∈ Keypad.panelKeys, label.toList.all (·.toNat < 128) = true := by
    decide
  exact fun label hlabel => isEncodable_of_all (hascii label hlabel)

private theorem isEncodable_entryText (entry : HistoryEntry) : isEncodable entry.text.toList =
    (isEncodable entry.expression.toList && isEncodable entry.result.toList) := by
  have htext : entry.text =
      entry.expression ++ " " ++ (if entry.solved then "=>" else "=") ++ " " ++ entry.result := rfl
  have hjoiner : isEncodable (if entry.solved then "=>" else "=").toList = true := by
    split_ifs <;> exact isEncodable_of_all (by decide)
  have hblank : isEncodable " ".toList = true := isEncodable_of_all (by decide)
  simp only [htext, String.toList_append, isEncodable_append, hjoiner, hblank, Bool.and_true]

namespace Service

open Session

/-! ## The history -/

/-- A line of the history can be sent if its parts can be encoded. -/
theorem isSendable_entryJson (entry : HistoryEntry) : (entryJson entry).isSendable =
    (isEncodable entry.expression.toList && isEncodable entry.result.toList &&
      isEncodable entry.timestamp.toList) := by
  rw [entryJson, Json.isSendable_object_of_ascii (by simp), Bool.eq_iff_iff]
  simp only [List.all_cons, List.all_nil, Json.isSendable, isEncodable_entryText,
    Bool.and_eq_true]
  tauto

/-- Whether the solutions in the history can be sent. -/
def solutionsSendable (session : Session) : Bool :=
  session.history.all fun entry => !entry.solved || (entryJson entry).isSendable

/-- What a session never fails to be sent for: the panel that is open and the lines of the history
that are no solutions. -/
structure Presentable (session : Session) : Prop where
  panel : ∀ label, session.panel = some label → label ∈ Keypad.panelKeys
  results : ∀ entry ∈ session.history, entry.solved = false → (entryJson entry).isSendable = true

variable {session next : Session}

theorem presentable_fresh (precision : Precision) : Presentable (fresh precision) := ⟨nofun, nofun⟩

private theorem isSendable_result {entry : String} {precision : Precision} {evaluation : Evaluation}
    (value : evaluateEntry entry precision = .ok evaluation) (clock : Clock) :
    (entryJson ⟨evaluation.expression, evaluation.result.display, clock.text, false⟩).isSendable =
      true := by
  rw [isSendable_entryJson, isEncodable_of_evaluateEntry value,
    isEncodable_of_isShown (isShown_of_evaluateEntry value).1, isEncodable_clock]
  rfl

theorem Presentable.move (h : Presentable session) (move : Move session next) :
    Presentable next := by
  cases move with
  | stay => exact h
  | enter display => exact ⟨h.panel, h.results⟩
  | fail kind => exact ⟨h.panel, h.results⟩
  | openPanel label key =>
      refine ⟨fun opened hopened => ?_, h.results⟩
      cases hopened
      exact key
  | result clock entry value =>
      exact ⟨h.panel, List.forall_mem_cons.2 ⟨fun _ => isSendable_result value clock, h.results⟩⟩
  | solution text clock equation =>
      exact ⟨h.panel, List.forall_mem_cons.2 ⟨nofun, h.results⟩⟩
  | refusal equation => exact ⟨h.panel, h.results⟩
  | breakdown equation => exact ⟨h.panel, h.results⟩

theorem Presentable.step (h : Presentable session) (step : Step session next) :
    Presentable next := by
  cases step with
  | move move => exact h.move move
  | clearHistory => exact ⟨h.panel, nofun⟩
  | setPrecision precision => exact ⟨h.panel, h.results⟩

/-- Whatever is done with a fresh session, its panel and its results can be sent. -/
theorem presentable_run {ε : Type} (precision : Precision) (operations : List (Operation ε)) :
    Presentable ((fresh precision).run operations) :=
  run_induction (fun _ _ => Presentable.step) operations (presentable_fresh precision)

/-! ## The whole session -/

theorem Presentable.isSendable_history (h : Presentable session) :
    (historyJson session).isSendable = solutionsSendable session := by
  rw [historyJson, Json.isSendable_list, List.all_map, solutionsSendable, Bool.eq_iff_iff,
    List.all_eq_true, List.all_eq_true]
  refine forall₂_congr fun entry hentry => ?_
  -- a line that is no solution can be sent anyway
  cases hsolved : entry.solved with
  | false => simp [h.results entry hentry hsolved]
  | true => simp

/-- A session whose display and fraction hint can be encoded can be sent if its solutions can. -/
theorem Presentable.isSendable_sessionJson (h : Presentable session)
    (hdisplay : isEncodable session.display = true)
    (hfraction : ∀ text, session.fraction = some text → isEncodable text.toList = true) :
    (sessionJson session none).isSendable = solutionsSendable session := by
  have hhint : (Json.ofText? session.fraction).isSendable = true := by
    rw [Json.isSendable_ofText?, Option.all_eq_true]
    exact hfraction
  have hfailure : (Json.ofText? (shownFailure session)).isSendable = true := by
    rw [Json.isSendable_ofText?, Option.all_eq_true]
    intro name hname
    obtain ⟨kind, -, rfl⟩ := Option.map_eq_some_iff.1 hname
    exact isEncodable_name kind
  have hpanel : (Json.ofText? session.panel).isSendable = true := by
    rw [Json.isSendable_ofText?, Option.all_eq_true]
    exact fun label hlabel => isEncodable_of_mem_panelKeys label (h.panel label hlabel)
  have hnone : (Json.ofText? none).isSendable = true := rfl
  rw [sessionJson, Json.isSendable_object_of_ascii (by simp)]
  simp only [List.all_cons, List.all_nil, hhint, hfailure, hpanel, hnone, h.isSendable_history,
    Json.isSendable, String.toList_ofList, hdisplay, isEncodable_modeName, Bool.and_true,
    Bool.true_and]

/-! ## Answers to an evaluation -/

/-- The fields of an answer have names that can be sent. -/
theorem isSendable_answer (display value fraction error : Json) :
    (Json.object [("display", display), ("value", value), ("fraction", fraction),
      ("error", error)]).isSendable =
      (display.isSendable && value.isSendable && fraction.isSendable && error.isSendable) := by
  rw [Json.isSendable_object_of_ascii (by simp)]
  simp only [List.all_cons, List.all_nil, Bool.and_true, Bool.and_assoc]

theorem isSendable_presentationJson {entry : String} {precision : Precision}
    {evaluation : Evaluation} (value : evaluateEntry entry precision = .ok evaluation) :
    (presentationJson evaluation.result).isSendable = true := by
  obtain ⟨hdisplay, hhint⟩ := isShown_of_evaluateEntry value
  have hfraction : (Json.ofText? evaluation.result.fraction).isSendable = true := by
    rw [Json.isSendable_ofText?, Option.all_eq_true]
    exact fun text htext => isEncodable_of_isShown (hhint text htext)
  have hvalue : (realJson evaluation.result.value).isSendable = true := by
    unfold realJson
    split_ifs with hfinite
    · exact hfinite
    · rfl
  simp only [presentationJson, isSendable_answer, hfraction, hvalue, Json.isSendable,
    isEncodable_of_isShown hdisplay, Bool.and_true]

theorem isSendable_faultJson (fault : Fault) : (faultJson fault).isSendable = true := by
  simp only [faultJson, isSendable_answer, Json.isSendable, isEncodable_label, isEncodable_name,
    Bool.and_true]

end Service

end DeskCalculator
