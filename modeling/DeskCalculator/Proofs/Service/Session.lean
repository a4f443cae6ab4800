import DeskCalculator.Proofs.Keypad.InPlace
import DeskCalculator.Service.App

/-!
# Requests and the session

What a request can do to the service is said once, by the relation `Change`
(`change_handle`), and what every change keeps is kept by any requests
(`after_induction`).  A change affects the session only by operations on it
(`Change.follows`), so after any requests the session is one that operations lead
to (`reached_after`), and what is true of such sessions is true of the service.

A request to press a key changes the session in place (`shows_pressKey`).  If the
key or the solver that it starts fails, the session is left as it was, and
otherwise the request can only crash because its response cannot be sent
(`pressKey_crash`).
-/

namespace DeskCalculator.Service.App

open Keypad Session

/-! ## The sessions that there can be -/

/-- Whether operations lead from a fresh session to this one. -/
def Reached (session : Session) : Prop :=
  ∃ precision operations,
    session = (fresh precision).run (operations : List (Operation Remote.Failure))

theorem Reached.coherent {session : Session} (h : Reached session) : Coherent session := by
  obtain ⟨precision, operations, rfl⟩ := h
  exact (coherent_fresh precision).run operations

section

variable [Platform]

/-- The service after several requests, each with what the service found around it. -/
def after (app : App) (requests : List (Request × World)) : App :=
  requests.foldl (fun app (request, world) => (app.handle request world).app) app

/-! ## What requests do to the session -/

/-- Whether the session of `next` is that of `app`, or what operations have made of it. -/
def Follows (app next : App) : Prop :=
  next.session = app.session ∨ ∃ session operations, app.ready = .ok session ∧
    next.session = some (session.run (operations : List (Operation Remote.Failure)))

variable {app next : App}

theorem Follows.of_run {session : Session} (hready : app.ready = .ok session)
    (operations : List (Operation Remote.Failure))
    (hsession : next.session = some (session.run operations)) : Follows app next :=
  .inr ⟨session, operations, hready, hsession⟩

theorem follows_withSession {session : Session} (hready : app.ready = .ok session) :
    Follows app (app.withSession session) :=
  .of_run hready [] rfl

/-! ## Pressing a key -/

/-- What the remote model answers, as a solver. -/
def solver (app : App) (world : World) : Solver Remote.Failure := fun equation =>
  solverAnswer (app.client.solve equation world.wire).outcome

variable {session : Session} {label : String} {world : World}

/-- How the reaction to a key shows what has come of it on the session in place: the session is the
one that is left, and a failure is a breakdown. -/
def Shows (app : App) (reaction : Reaction) :
    EStateM.Result (OperationFailure Remote.Failure) Session (Option String) → Prop
  | .ok action last =>
    reaction.app = app.withSession last ∧ reaction.response = .ok (sessionJson last action)
  | .error _ last => reaction.app = app.withSession last ∧ reaction.response = .crash

private theorem shows_solveDisplay (app : App) (session : Session) (action : Option String)
    (world : World) :
    Shows app (app.solveDisplay session action world)
      (InPlace.left action (session.apply (.solve (some (app.solver world)) world.clock))) := by
  rw [Session.apply]
  change Shows app ⟨_, if (session.solve (some (app.solver world)) world.clock).2.isSome then _
    else Response.ok (sessionJson (session.solve (some (app.solver world)) world.clock).1 action),
    _⟩ _
  cases hsolve : session.solve (some (app.solver world)) world.clock with
  | mk last failure =>
      cases failure with
      | none => exact ⟨congrArg (app.withSession ·.1) hsolve, rfl⟩
      | some failure => exact ⟨congrArg (app.withSession ·.1) hsolve, rfl⟩

theorem shows_pressKey (app : App) (session : Session) (label : String) (world : World) :
    Shows app (app.pressKey session label world)
      ((InPlace.pressAndSolve label (some (app.solver world)) world.clock).run session) := by
  rw [InPlace.run_pressAndSolve]
  unfold pressKey
  cases hpress : session.press label world.clock with
  | error failure => exact ⟨rfl, rfl⟩
  | ok outcome =>
      obtain ⟨between, action⟩ := outcome
      simp only
      split_ifs with hsolve
      · rw [hsolve] at hpress
        rw [InPlace.eq_of_press_solveAction hpress]
        exact shows_solveDisplay app session action world
      · exact ⟨rfl, rfl⟩

theorem follows_pressKey (hready : app.ready = .ok session) (label : String) (world : World) :
    Follows app (app.pressKey session label world).app := by
  unfold pressKey
  cases hpress : session.press label world.clock with
  | error failure => exact follows_withSession hready
  | ok outcome =>
      obtain ⟨between, action⟩ := outcome
      let pressed : Operation Remote.Failure := .press label world.clock
      have hpressed : (session.apply pressed).1 = between := by
        rw [Session.apply, hpress]
      simp only
      split_ifs
      · refine .of_run hready [pressed, .solve (some (app.solver world)) world.clock] ?_
        rw [run_cons, hpressed]
        rfl
      · refine .of_run hready [pressed] ?_
        rw [run_cons, hpressed]
        rfl

/-! ## All requests -/

/-- How one request can change the service. -/
inductive Change (app : App) : App → Prop
  | stay : Change app app
  | prepare {session : Session} (ready : app.ready = .ok session) :
      Change app (app.withSession session)
  | key {session : Session} (ready : app.ready = .ok session) (label : String) (world : World) :
      Change app (app.pressKey session label world).app
  | forget {session : Session} (ready : app.ready = .ok session) :
      Change app (app.clearHistory session).app
  /-- Settings are changed. -/
  | store {session : Session} (ready : app.ready = .ok session) (request : SettingsRequest)
      (palette : Option Palette) :
      Change app (app.settled session (storeChanges app.store request palette)).app
  | reset {session : Session} (ready : app.ready = .ok session) :
      Change app (app.resetSettings session).app

theorem change_inSession {action : Session → Reaction}
    (h : ∀ session, app.ready = .ok session → Change app (action session).app) :
    Change app (app.inSession action).app := by
  unfold inSession
  cases hready : app.ready with
  | ok session => exact h session hready
  | error failure => exact .stay

theorem change_reading {α : Type} {body : Json} {type : FieldType α} {action : α → Reaction}
    (hsame : Change app next) (h : ∀ request, Change app (action request).app) :
    Change app (next.reading body type action).app := by
  unfold reading
  cases type body with
  | ok request => exact h request
  | error misfits => exact hsame

theorem change_updateSettings (hready : app.ready = .ok session) (request : SettingsRequest) :
    Change app (app.updateSettings session request).app := by
  unfold updateSettings
  simp only
  split
  · exact .prepare hready
  split_ifs
  · exact .prepare hready
  split
  · exact .prepare hready
  · exact .prepare hready
  · exact .store hready request _

theorem change_carryOut (app : App) (route : Route) (body : Json) (world : World) :
    Change app (app.carryOut route body world).app := by
  cases route with
  | evaluate => exact change_reading .stay fun _ => .stay
  | pressKey =>
      exact change_inSession fun _ hready =>
        change_reading (.prepare hready) fun label => .key hready label world
  | showSession => exact change_inSession fun _ hready => .prepare hready
  | showHistory => exact change_inSession fun _ hready => .prepare hready
  | clearHistory => exact change_inSession fun _ hready => .forget hready
  | showSettings => exact .stay
  | updateSettings =>
      exact change_inSession fun _ hready =>
        change_reading (.prepare hready) fun request => change_updateSettings hready request
  | resetSettings => exact change_inSession fun _ hready => .reset hready
  | showTheme => exact .stay
  | solve =>
      refine change_reading .stay fun equation => ?_
      unfold App.solve
      simp only
      split_ifs <;> exact .stay
  | introduce => exact .stay
  | chat =>
      refine change_reading .stay fun request => ?_
      unfold chat
      simp only
      split_ifs <;> exact .stay
  | divide => exact change_reading .stay fun _ => .stay
  | graph =>
      exact change_inSession fun _ hready =>
        change_reading (.prepare hready) fun _ => .prepare hready

/-- Whatever is requested, the service changes in one of these ways. -/
theorem change_handle (app : App) (request : Request) (world : World) :
    Change app (app.handle request world).app := by
  show Change app (app.answer request world).app
  unfold answer
  split
  · exact .stay
  · exact .stay
  · exact .stay
  · split
    · split
      · exact change_carryOut ..
      · exact .stay
      · exact .stay
    · exact change_carryOut ..

/-- What every change keeps, any requests keep. -/
theorem after_induction {P : App → Prop} (keeps : ∀ before after, P before → Change before after →
    P after) (requests : List (Request × World)) (h : P app) : P (app.after requests) := by
  induction requests generalizing app with
  | nil => exact h
  | cons first later ih =>
      obtain ⟨request, world⟩ := first
      exact ih (keeps _ _ h (change_handle app request world))

theorem follows_settled (hready : app.ready = .ok session)
    (outcome : Except Store.Failure Settings × Store) :
    Follows app (app.settled session outcome).app := by
  unfold settled
  cases outcome.1 with
  | error failure => exact .of_run hready [] rfl
  | ok settings => exact .of_run hready [.setPrecision settings.precision] rfl

theorem Change.follows (change : Change app next) : Follows app next := by
  cases change with
  | stay => exact .inl rfl
  | prepare ready => exact follows_withSession ready
  | key ready label world => exact follows_pressKey ready label world
  | forget ready => exact .of_run ready [.clearHistory] rfl
  | store ready request palette => exact follows_settled ready _
  | reset ready => exact follows_settled ready _

/-! ## The session of the service -/

theorem reached_ready (h : ∀ session, app.session = some session → Reached session)
    (hready : app.ready = .ok session) : Reached session := by
  unfold ready at hready
  split at hready
  · next hpresent =>
      cases hready
      exact h _ hpresent
  · obtain ⟨precision, -, hready⟩ := Expr.bind_eq_ok hready
    cases hready
    exact ⟨precision, [], rfl⟩

theorem Follows.reached (h : ∀ session, app.session = some session → Reached session)
    (follows : Follows app next) (hsession : next.session = some session) : Reached session := by
  rcases follows with hsame | ⟨start, operations, hready, hrun⟩
  · exact h session (hsame.symm.trans hsession)
  · obtain ⟨precision, earlier, rfl⟩ := reached_ready h hready
    cases hrun.symm.trans hsession
    exact ⟨precision, earlier ++ operations, (run_append ..).symm⟩

/-- The session of the service is always one that operations lead to. -/
theorem reached_after (store : Store) (client : Remote.Client)
    (requests : List (Request × World)) :
    ∀ session, ((start store client).after requests).session = some session → Reached session :=
  after_induction (P := fun app => ∀ session, app.session = some session → Reached session)
    (fun _ _ h change _ => change.follows.reached h) requests nofun

/-! ## Requests that crash -/

/-- Whether the session of `app` is still that of `next`, which may have made one ready where there
was none. -/
def KeepsSession (app next : App) : Prop :=
  next.session = app.session ∨ app.session = none ∧
    ∃ precision, app.storedPrecision = .ok precision ∧ next.session = some (fresh precision)

theorem keepsSession_withSession (hready : app.ready = .ok session) :
    KeepsSession app (app.withSession session) := by
  unfold ready at hready
  split at hready
  · next hpresent =>
      cases hready
      exact .inl hpresent.symm
  · next habsent =>
      obtain ⟨precision, hprecision, hready⟩ := Expr.bind_eq_ok hready
      cases hready
      exact .inr ⟨habsent, precision, hprecision, rfl⟩

/-- A request to press a key leaves the session alone until the key is pressed. -/
theorem answer_pressKey (app : App) {request : Request}
    (htarget : request.target = .route .pressKey) (world : World) :
    KeepsSession app (app.answer request world).app ∨ ∃ session label, app.ready = .ok session ∧
      app.answer request world = app.pressKey session label world := by
  have hself : KeepsSession app app := .inl rfl
  unfold answer
  simp only [htarget, readsBody, if_true]
  split
  · next body _ =>
      simp only [carryOut, inSession]
      cases hready : app.ready with
      | error failure => exact .inl hself
      | ok session =>
          simp only [reading]
          cases readText "label" body with
          | error misfits => exact .inl (keepsSession_withSession hready)
          | ok label => exact .inr ⟨session, label, rfl, rfl⟩
  · exact .inl hself
  · exact .inl hself

private theorem isSendable_of_sent_eq_crash {body : Json} (h : (Response.ok body).sent = .crash) :
    body.isSendable = false := by
  rw [Bool.eq_false_iff]
  intro hsendable
  simp [Response.ok, Response.sent, hsendable] at h

/-- Where pressing a key ends in a crash, the session is as it was or the key has been carried out
to its end. -/
theorem pressKey_crash (h : Coherent session)
    (hcrash : (app.pressKey session label world).response.sent = .crash) :
    (app.pressKey session label world).app = app.withSession session ∨ ∃ action last,
      (InPlace.pressAndSolve label (some (app.solver world)) world.clock).run session =
        .ok action last ∧
      (app.pressKey session label world).app = app.withSession last ∧
      (sessionJson last action).isSendable = false := by
  have hshows := shows_pressKey app session label world
  cases hrun :
    (InPlace.pressAndSolve label (some (app.solver world)) world.clock).run session with
  | error failure after =>
      -- the key or its solver has failed, in place
      rw [hrun, InPlace.pressAndSolve_failure h hrun] at hshows
      exact .inl hshows.1
  | ok action last =>
      -- everything has been done, and the crash comes from sending the response
      rw [hrun] at hshows
      rw [hshows.2] at hcrash
      exact .inr ⟨action, last, rfl, hshows.1, isSendable_of_sent_eq_crash hcrash⟩

/-- An operation that fails, carried out in place, leaves its session as it was.  So does a request
to press a key that crashes, unless the key has been carried out to its end and the session that
would be shown cannot be sent. -/
theorem failures_keep_session :
    (∀ (ε : Type) (session : Session) (operation : Operation ε),
      (InPlace.carryOut operation).run session = InPlace.left () (session.apply operation)) ∧
    (∀ (app : App) (session : Session) (label : String) (world : World),
      Shows app (app.pressKey session label world)
        ((InPlace.pressAndSolve label (some (app.solver world)) world.clock).run session)) ∧
    (∀ (ε : Type) (precision : Precision) (earlier : List (Operation ε)) (operation : Operation ε)
        (failure : OperationFailure ε) (after : Session),
      (InPlace.carryOut operation).run ((fresh precision).run earlier) = .error failure after →
      after = (fresh precision).run earlier) ∧
    ∀ (store : Store) (client : Remote.Client) (earlier : List (Request × World))
        (request : Request) (world : World), request.target = .route .pressKey →
      let app := (start store client).after earlier
      let reaction := app.handle request world
      reaction.response = .crash →
      KeepsSession app reaction.app ∨ ∃ session label action last, app.ready = .ok session ∧
        (InPlace.pressAndSolve label (some (app.solver world)) world.clock).run session =
          .ok action last ∧
        reaction.app.session = some last ∧ (sessionJson last action).isSendable = false := by
  refine ⟨fun ε session => InPlace.run_carryOut, shows_pressKey, ?_, ?_⟩
  · intro ε precision earlier operation failure after hfailure
    exact InPlace.carryOut_failure ((coherent_fresh precision).run earlier) hfailure
  · intro store client earlier request world htarget app reaction hcrash
    rcases answer_pressKey app htarget world with hkeeps | ⟨session, label, hready, hanswer⟩
    · exact .inl hkeeps
    have hcoherent := (reached_ready (reached_after store client earlier) hready).coherent
    have happ : reaction.app = (app.pressKey session label world).app := by
      rw [← hanswer]
      rfl
    have hresponse : (app.pressKey session label world).response.sent = .crash := by
      rw [← hanswer]
      exact hcrash
    rcases pressKey_crash hcoherent hresponse with hsame | ⟨action, last, hrun, hlast, hunsendable⟩
    · rw [happ, hsame]
      exact .inl (keepsSession_withSession hready)
    · refine .inr ⟨session, label, action, last, hready, hrun, ?_, hunsendable⟩
      rw [happ, hlast]
      rfl

end

/-! ## Crashes of a service without a key -/

/-- A request to press a key, whose label is given as it stands in a JSON string. -/
def keyRequest (label : String) : Request :=
  ⟨"POST", "/api/keypad", ("\x7b\"label\": \"" ++ label ++ "\"\x7d").toUTF8⟩

/-- A service without a key for the remote model. -/
def offline : App := start .absent ⟨none, "", ""⟩

/-- Midnight, and nobody to reach. -/
def midnight : World := ⟨⟨0, 0⟩, fun _ => .unreachable⟩

/-- Whether a request could not be completed. -/
def isCrash : Response → Bool
  | .crash => true
  | .json .. | .plain _ | .moved | .invalid => false

theorem eq_crash_of_isCrash {response : Response} (h : isCrash response = true) :
    response = .crash := by
  cases response with
  | crash => rfl
  | json | plain | moved | invalid => cases h

/-- A solver that breaks down on an equation, and an operator on an empty display. -/
theorem failures_keep_session_offline :
    let entered := (fresh none).run [(.press "x=1" ⟨0, 0⟩ : Operation Unit)]
    let empty := offline.after [(keyRequest "", midnight)]
    let reaction := empty.handle (keyRequest "+") midnight
    (InPlace.carryOut (.solve (some fun _ => .broken ()) ⟨0, 0⟩)).run entered =
        .error (.solver ()) entered.awaiting.answered ∧
      entered.awaiting.answered = entered ∧
      (keyRequest "+").target = .route .pressKey ∧ reaction.response = .crash ∧
      (KeepsSession empty reaction.app ∨ ∃ session label action last, empty.ready = .ok session ∧
        (InPlace.pressAndSolve label (some (empty.solver midnight)) ⟨0, 0⟩).run session =
          .ok action last ∧
        reaction.app.session = some last ∧ (sessionJson last action).isSendable = false) := by
  have hbroken : (InPlace.carryOut (.solve (some fun _ => .broken ()) ⟨0, 0⟩)).run
      ((fresh none).run [(.press "x=1" ⟨0, 0⟩ : Operation Unit)]) = .error (.solver ()) _ := rfl
  have htarget : (keyRequest "+").target = .route .pressKey := by decide +kernel
  have hcrash : ((offline.after [(keyRequest "", midnight)]).handle (keyRequest "+")
      midnight).response = .crash := eq_crash_of_isCrash (by decide +kernel)
  exact ⟨hbroken, failures_keep_session.2.2.1 Unit none _ _ _ _ hbroken, htarget, hcrash,
    failures_keep_session.2.2.2 _ _ _ _ _ htarget hcrash⟩

/-- Half of a surrogate pair goes on the display, the session can then not be shown, and the key
has been pressed nevertheless. -/
theorem unsendable_key_is_kept :
    let entered := offline.after [(keyRequest "5", midnight)]
    let reaction := entered.handle (keyRequest "\\ud800") midnight
    (keyRequest "\\ud800").target = .route .pressKey ∧ reaction.response = .crash ∧
      entered.session.map (·.display) = some ['5'] ∧
      reaction.app.session.map (·.display) = some ['5', Text.half 0xD800] :=
  ⟨by decide +kernel, eq_crash_of_isCrash (by decide +kernel), by decide +kernel,
    by decide +kernel⟩

end DeskCalculator.Service.App
