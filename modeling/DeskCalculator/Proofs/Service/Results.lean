import DeskCalculator.Proofs.Service.InStep
import DeskCalculator.Proofs.Service.Sendable

/-!
# Both ways to a result agree

An entry can be evaluated with the stored precision, or on the display of the session
with the key for the result.  As the session is in step with the store, both show the
same (`evaluation_agrees_with_key`): the display, the fraction hint and the failure,
which the session recovers from its display.  That works because no result looks like
the label of a failure.

Afterwards the session is shown with its history, and that can only fail because of a
solution which cannot be encoded.
-/

namespace DeskCalculator.Service.App

open Keypad Session Store Text

variable {app : App} {session : Session}

/-! ## Two views of a result -/

/-- Whether two views show the same result: what stands on the display, its fraction hint and the
name of the failure. -/
def ShowSame (first second : Json) : Prop :=
  ∀ name ∈ ["display", "fraction", "error"], ∃ value,
    first.field? name = some value ∧ second.field? name = some value

theorem showSame_sessionJson {body : Json}
    (hdisplay : body.field? "display" = some (.text (String.ofList session.display)))
    (hfraction : body.field? "fraction" = some (.ofText? session.fraction))
    (hfailure : body.field? "error" = some (.ofText? (shownFailure session))) :
    ShowSame body (sessionJson session none) := by
  intro name hname
  fin_cases hname
  · exact ⟨_, hdisplay, rfl⟩
  · exact ⟨_, hfraction, rfl⟩
  · exact ⟨_, hfailure, rfl⟩

private theorem showSame_result {entry : String} {precision : Precision} {evaluation : Evaluation}
    (value : evaluateEntry entry precision = .ok evaluation) (session : Session) (clock : Clock) :
    ShowSame (presentationJson evaluation.result)
      (sessionJson (session.showResult evaluation clock) none) := by
  have hdisplay : String.ofList (session.showResult evaluation clock).display =
      evaluation.result.display := String.ofList_toList
  -- the session looks for a failure on its display and finds none
  have hfailure : shownFailure (session.showResult evaluation clock) = none := by
    rw [shownFailure, hdisplay, ofLabel?_of_isShown (isShown_of_evaluateEntry value).1]
    rfl
  apply showSame_sessionJson
  · rw [hdisplay]
    rfl
  · rfl
  · rw [hfailure]
    rfl

private theorem showSame_fault (session : Session) (fault : Fault) :
    ShowSame (faultJson fault) (sessionJson (session.fail fault.kind) none) := by
  have hdisplay : String.ofList (session.fail fault.kind).display = fault.kind.label :=
    String.ofList_toList
  -- the label tells the session which failure it was
  have hfailure : shownFailure (session.fail fault.kind) = some fault.kind.name := by
    rw [shownFailure, hdisplay, FaultKind.ofLabel?_label]
    rfl
  apply showSame_sessionJson
  · rw [hdisplay]
    rfl
  · rfl
  · rw [hfailure]
    rfl

/-! ## Evaluating the display and the key for the result -/

theorem eq_ok_of_toOption {ε α : Type} {outcome : Except ε α} {a : α}
    (h : outcome.toOption = some a) : outcome = .ok a := by
  cases outcome with
  | ok found =>
      cases h
      rfl
  | error failure => cases h

section

variable [Platform]

/-- What is read from the body of a request, if it fits. -/
def content? {α : Type} (type : FieldType α) (request : Request) : Option α :=
  (readBody request.body).toOption.bind fun body => (type body).toOption

theorem content?_eq_some {α : Type} {type : FieldType α} {request : Request} {a : α}
    (h : content? type request = some a) :
    ∃ body, readBody request.body = .ok body ∧ type body = .ok a := by
  obtain ⟨body, hbody, hread⟩ := Option.bind_eq_some_iff.1 h
  exact ⟨body, eq_ok_of_toOption hbody, eq_ok_of_toOption hread⟩

/-- A request whose body can be read is carried out with it. -/
theorem handle_of_content {α : Type} {type : FieldType α} {request : Request} {a : α}
    {route : Route} (htarget : request.target = .route route) (hreads : readsBody route = true)
    (hcontent : content? type request = some a) (app : App) (world : World) :
    ∃ body, type body = .ok a ∧ app.handle request world =
      { app.carryOut route body world with
        response := (app.carryOut route body world).response.sent } := by
  obtain ⟨body, hbody, hread⟩ := content?_eq_some hcontent
  refine ⟨body, hread, ?_⟩
  simp only [App.handle, answer, htarget, hreads, hbody, if_true]

/-- Whether a request asks for the value of an entry with the stored precision. -/
def Evaluates (request : Request) (entry : String) : Prop :=
  request.target = .route .evaluate ∧ content? EvaluateRequest.read request = some ⟨entry, none⟩

/-- Whether a request presses a key. -/
def Presses (request : Request) (label : String) : Prop :=
  request.target = .route .pressKey ∧ content? (readText "label") request = some label

theorem Evaluates.handle {request : Request} {entry : String} (h : Evaluates request entry)
    (app : App) (world : World) :
    app.handle request world = { app, response := (app.evaluate ⟨entry, none⟩).sent } := by
  obtain ⟨body, hread, hhandle⟩ := handle_of_content h.1 rfl h.2 app world
  rw [hhandle]
  simp only [carryOut, reading, hread]

theorem Presses.handle {request : Request} {label : String} (h : Presses request label)
    (hready : app.ready = .ok session) (world : World) :
    app.handle request world = { app.pressKey session label world with
      response := (app.pressKey session label world).response.sent } := by
  obtain ⟨body, hread, hhandle⟩ := handle_of_content h.1 rfl h.2 app world
  rw [hhandle]
  simp only [carryOut, inSession, hready, reading, hread]

/-- Whether evaluating the display of a session and the key for the result agree: both crash, or the
session shows afterwards what the evaluation has answered.  It is also sent, unless a solution in
the history cannot be. -/
def Agree (session : Session) (evaluated pressed : Reaction) : Prop :=
  (evaluated.response = .crash ∧ pressed.response = .crash) ∨
    ∃ body last, evaluated.response = .ok body ∧ pressed.app.session = some last ∧
      ShowSame body (sessionJson last none) ∧
      pressed.response =
        if solutionsSendable session then .ok (sessionJson last none) else .crash

theorem Reached.presentable (h : Reached session) : Presentable session := by
  obtain ⟨precision, operations, rfl⟩ := h
  exact presentable_run precision operations

theorem sent_ok (body : Json) :
    (Response.ok body).sent = if body.isSendable then .ok body else .crash := rfl

theorem sent_refusal {status : ℕ} {detail : String} (h : isEncodable detail.toList = true) :
    (Response.refusal status detail).sent = .refusal status detail := by
  have hbody : (Json.object [("detail", .text detail)]).isSendable = true := by
    rw [Json.isSendable_object_of_ascii (by simp), List.all_cons, List.all_nil, Json.isSendable, h]
    rfl
  rw [Response.refusal, Response.sent, hbody, if_pos rfl]

private theorem evaluate_eq (hstored : app.storedPrecision = .ok session.precision)
    (entry : String) :
    app.evaluate ⟨entry, none⟩ =
      match evaluateEntry entry session.precision with
      | .ok evaluation => .ok (presentationJson evaluation.result)
      | .error (.fault fault) => .ok (faultJson fault)
      | .error (.breakdown _) => .crash := by
  cases hvalue : evaluateEntry entry session.precision with
  | ok evaluation => simp only [evaluate, hstored, hvalue]
  | error failure => cases failure <;> simp only [evaluate, hstored, hvalue]

private theorem pressKey_equals (app : App) (hmode : session.mode ≠ .error)
    (hentry : session.display.any isVariable = false) (world : World) :
    app.pressKey session "=" world =
      match evaluateEntry (String.ofList session.display) session.precision with
      | .ok evaluation =>
        let last := session.showResult evaluation world.clock
        ⟨app.withSession last, .ok (sessionJson last none), []⟩
      | .error (.fault fault) =>
        let last := session.fail fault.kind
        ⟨app.withSession last, .ok (sessionJson last none), []⟩
      | .error (.breakdown _) => ⟨app.withSession session, .crash, []⟩ := by
  have hpress : session.press "=" world.clock = session.equals world.clock := rfl
  rw [pressKey, hpress, equals]
  simp only [hmode, hentry, if_false, Bool.false_eq_true]
  cases evaluateEntry (String.ofList session.display) session.precision with
  | ok evaluation => rfl
  | error failure => cases failure <;> rfl

/-- An answer that can be sent and a session that shows the same agree. -/
theorem agree_of_showSame {body : Json} {last : Session} (hbody : body.isSendable = true)
    (hlast : Presentable last) (hdisplay : isEncodable last.display = true)
    (hfraction : ∀ text, last.fraction = some text → isEncodable text.toList = true)
    (hsolutions : solutionsSendable last = solutionsSendable session)
    (hsame : ShowSame body (sessionJson last none)) :
    Agree session ⟨app, (Response.ok body).sent, []⟩
      ⟨app.withSession last, (Response.ok (sessionJson last none)).sent, []⟩ := by
  refine .inr ⟨body, last, ?_, rfl, hsame, ?_⟩
  · rw [sent_ok, hbody, if_pos rfl]
  · rw [sent_ok, hlast.isSendable_sessionJson hdisplay hfraction, hsolutions]

/-- Where the session has the stored precision, evaluating its display and the key for the result
agree. -/
theorem agree_of_storedPrecision (h : Presentable session) (hready : app.ready = .ok session)
    (hstored : app.storedPrecision = .ok session.precision) (hmode : session.mode ≠ .error)
    (hentry : session.display.any isVariable = false) {evaluation key : Request}
    (hevaluation : Evaluates evaluation (String.ofList session.display)) (hkey : Presses key "=")
    (world later : World) :
    Agree session (app.handle evaluation world)
      ((app.handle evaluation world).app.handle key later) := by
  rw [hevaluation.handle, hkey.handle hready, evaluate_eq hstored, pressKey_equals app hmode hentry]
  -- both read the same value now, and only what they make of it is left to compare
  cases hvalue : evaluateEntry (String.ofList session.display) session.precision with
  | error failure =>
      cases failure with
      | breakdown breakdown => exact .inl ⟨rfl, rfl⟩
      | fault fault =>
          have hlabel : isEncodable (session.fail fault.kind).display = true :=
            isEncodable_label fault.kind
          exact agree_of_showSame (isSendable_faultJson fault) (h.move (.fail fault.kind)) hlabel
            nofun rfl (showSame_fault session fault)
  | ok evaluation =>
      have hmove : Move session (session.showResult evaluation later.clock) :=
        .result later.clock hentry hvalue
      obtain ⟨hdisplay, hhint⟩ := isShown_of_evaluateEntry hvalue
      have hfraction : ∀ text, evaluation.result.fraction = some text →
          isEncodable text.toList = true := by
        intro text htext
        exact isEncodable_of_isShown (hhint text htext)
      exact agree_of_showSame (isSendable_presentationJson hvalue) (h.move hmove)
        (isEncodable_of_isShown hdisplay) hfraction rfl
        (showSame_result hvalue session later.clock)

/-- From a store that can be loaded, and in which the fields of others can be written again, any
requests leave the session with the precision that is stored.  There is then always a session, and
unless it shows a failure or a variable, evaluating its display and pressing the key for the result
agree. -/
theorem evaluation_agrees_with_key {store : Store} {fields : Json.Fields}
    (hload : store.load = .ok fields) (hothers : OthersWritable fields) (client : Remote.Client)
    (requests : List (Request × World)) :
    let app := (start store client).after requests
    (∀ session, app.session = some session → app.storedPrecision = .ok session.precision) ∧
      ∃ session, app.ready = .ok session ∧ app.storedPrecision = .ok session.precision ∧
        (session.mode ≠ .error → session.display.any isVariable = false →
          ∀ evaluation key world later,
            Evaluates evaluation (String.ofList session.display) → Presses key "=" →
            let evaluated := app.handle evaluation world
            Agree session evaluated (evaluated.app.handle key later)) := by
  intro app
  have hstep : InStep app := inStep_after ⟨fields, hload, hothers⟩ client requests
  obtain ⟨session, hready, hstored⟩ := hstep.exists_ready
  have hpresentable := (reached_ready (reached_after store client requests) hready).presentable
  refine ⟨hstep.precision, session, hready, hstored, ?_⟩
  intro hmode hentry evaluation key world later hevaluation hkey
  exact agree_of_storedPrecision hpresentable hready hstored hmode hentry hevaluation hkey world
    later

end

/-- Two thirds with two places. -/
theorem evaluation_agrees_with_key_thirds :
    let places : Request := ⟨"PUT", "/api/settings", "\x7b\"rounding_precision\": \"2\"\x7d".toUTF8⟩
    let app := offline.after [(places, midnight), (keyRequest "2/3", midnight)]
    let evaluation : Request := ⟨"POST", "/api/evaluate", "\x7b\"expression\": \"2/3\"\x7d".toUTF8⟩
    let evaluated := app.handle evaluation midnight
    let pressed := evaluated.app.handle (keyRequest "=") midnight
    absent.load = .ok defaultFields ∧ OthersWritable defaultFields ∧
      ∃ session, app.ready = .ok session ∧ session.precision = some 2 ∧
        session.display = "2/3".toList ∧ session.mode = .editing ∧
        app.storedPrecision = .ok session.precision ∧
        Evaluates evaluation "2/3" ∧ Presses (keyRequest "=") "=" ∧
        Agree session evaluated pressed ∧
        pressed.app.session.map (·.display) = some "0.67".toList := by
  intro places app evaluation evaluated pressed
  have hsession : app.session.map (fun session => (session.precision, session.display,
      session.mode)) = some (some 2, "2/3".toList, .editing) := by
    decide +kernel
  have hshown : pressed.app.session.map (·.display) = some "0.67".toList := by decide +kernel
  have hevaluation : Evaluates evaluation "2/3" := ⟨by decide +kernel, by decide +kernel⟩
  have hkey : Presses (keyRequest "=") "=" := ⟨by decide +kernel, by decide +kernel⟩
  obtain ⟨present, hpresent, hparts⟩ := Option.map_eq_some_iff.1 hsession
  obtain ⟨hprecision, hdisplay, hmode⟩ : present.precision = some 2 ∧
      present.display = "2/3".toList ∧ present.mode = .editing := by
    simpa using hparts
  have hload : absent.load = .ok defaultFields := rfl
  obtain ⟨-, session, hready, hstored, hagree⟩ := evaluation_agrees_with_key hload
    othersWritable_defaultFields ⟨none, "", ""⟩ [(places, midnight), (keyRequest "2/3", midnight)]
  obtain rfl : present = session := by
    have hfound : app.ready = .ok present := by rw [ready, hpresent]
    exact Except.ok.inj (hfound.symm.trans hready)
  refine ⟨hload, othersWritable_defaultFields, present, hready, hprecision, hdisplay, hmode,
    hstored, hevaluation, hkey, ?_, hshown⟩
  refine hagree (by rw [hmode]; decide) (by rw [hdisplay]; decide) evaluation (keyRequest "=")
    midnight midnight ?_ hkey
  rwa [hdisplay]

/-- Half of a surrogate pair in a field of others: changing the theme destroys the stored settings,
and the precision with them, but the session keeps its precision. -/
theorem half_separates_precisions :
    let store := file
      "\x7b\"a\": \"\\ud800\", \"settings\": \x7b\"rounding_precision\": \"2\"\x7d\x7d".toUTF8
    let light : Request := ⟨"PUT", "/api/settings", "\x7b\"theme\": \"light\"\x7d".toUTF8⟩
    let app := (start store ⟨none, "", ""⟩).after [(keyRequest "1", midnight), (light, midnight)]
    (∃ fields, store.load = .ok fields) ∧
      ∃ session, app.session = some session ∧ app.storedPrecision ≠ .ok session.precision := by
  intro store light app
  have hloaded : store.load.toOption.isSome = true := by decide +kernel
  have hsession : app.session.map (·.precision) = some (some 2) := by decide +kernel
  have hstored : app.storedPrecision.toOption = some none := by decide +kernel
  obtain ⟨fields, hfields⟩ := Option.isSome_iff_exists.1 hloaded
  obtain ⟨session, hpresent, hprecision⟩ := Option.map_eq_some_iff.1 hsession
  refine ⟨⟨fields, eq_ok_of_toOption hfields⟩, session, hpresent, ?_⟩
  rw [eq_ok_of_toOption hstored, hprecision]
  exact nofun

end DeskCalculator.Service.App
