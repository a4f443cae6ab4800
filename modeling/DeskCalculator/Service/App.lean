import DeskCalculator.Keypad.Solve
import DeskCalculator.Remote.Division
import DeskCalculator.Service.Request
import DeskCalculator.Service.Response
import DeskCalculator.Settings.Store

/-!
# The service

The service keeps the settings file, one session, which comes into being when it
is first needed, and a client of the remote model.  Each request is handled in
turn: its body is read, the session is made ready if the route needs it, the
request of the route is read from the body, and then the route is carried out.
The first of these steps that fails decides the response.
-/

namespace DeskCalculator.Service

/-- The state of the service. -/
structure App where
  store : Store
  session : Option Session
  client : Remote.Client

/-- What the service finds around it while it handles a request. -/
structure World where
  clock : Clock
  wire : Remote.Wire

/-- What handling a request leads to. -/
structure Reaction where
  app : App
  response : Response
  /-- The requests that were sent to the remote model. -/
  sent : List Remote.Request := []

namespace App

/-- The service as it starts. -/
def start (store : Store) (client : Remote.Client) : App := ⟨store, none, client⟩

/-- The service with another session. -/
def withSession (app : App) (session : Session) : App :=
  { app with session := some session }

section

variable [Platform]

/-- The precision that the stored settings ask for. -/
def storedPrecision (app : App) : Except Store.Failure Precision := do
  return (← app.store.settings).precision

/-- The session, which is made from the stored settings if there is none yet. -/
def ready (app : App) : Except Store.Failure Session :=
  match app.session with
  | some session => .ok session
  | none => do return { precision := ← app.storedPrecision }

/-! ## Evaluating -/

/-- Evaluates an entry, with the precision of the settings unless another is asked for. -/
def evaluate (app : App) (request : EvaluateRequest) : Response :=
  let precision : Except Store.Failure Precision :=
    match request.precision with
    | some places => .ok (some places)
    | none => app.storedPrecision
  match precision with
  | .error _ => .crash
  | .ok precision =>
    match evaluateEntry request.expression precision with
    | .ok evaluation => .ok (presentationJson evaluation.result)
    | .error (.fault fault) => .ok (faultJson fault)
    | .error (.breakdown _) => .crash

/-! ## The session -/

/-- The outcome of asking the client, as a session takes it. -/
def solverAnswer (outcome : Except Remote.Failure String) : SolverAnswer Remote.Failure :=
  match outcome with
  | .ok solution => .solution solution
  | .error failure => if failure.isReported then .failed else .broken failure

/-- Sends the equation on the display to the remote model; `action` is what led to it. -/
def solveDisplay (app : App) (session : Session) (action : Option String) (world : World) :
    Reaction :=
  let exchange := app.client.solve (String.ofList session.display) world.wire
  let sent := if session.hasEquation then exchange.sent else []
  let (next, failure) :=
    session.solve (some fun _ => solverAnswer exchange.outcome) world.clock
  let response := if failure.isSome then .crash else .ok (sessionJson next action)
  ⟨app.withSession next, response, sent⟩

/-- Presses a key, and solves the equation on the display if the key asks for that. -/
def pressKey (app : App) (session : Session) (label : String) (world : World) : Reaction :=
  match session.press label world.clock with
  | .error _ => ⟨app.withSession session, .crash, []⟩
  | .ok (next, action) =>
    if action = some Keypad.solveAction then app.solveDisplay next action world
    else ⟨app.withSession next, .ok (sessionJson next action), []⟩

/-- Forgets the history. -/
def clearHistory (app : App) (session : Session) : Reaction :=
  { app := app.withSession session.clearHistory, response := .ok (.list []) }

/-! ## Settings -/

/-- The changes to the stored settings that a request asks for. -/
def changesOf (request : SettingsRequest) (palette : Option Palette) : Json.Fields :=
  (request.theme.map fun theme => ("theme", Json.text theme)).toList ++
    (palette.map fun palette => ("custom_theme", Json.object palette.toFields)).toList ++
    (request.precision.map fun places => ("rounding_precision", Json.text places)).toList

/-- Whether a text is a precision as it is stored, apart from blanks around it. -/
def isPrecisionText (text : String) : Bool :=
  (Precision.ofText text).toSetting == Text.trimString text

/-- Stores the changes of a request.  A palette without a theme is chosen with it. -/
def storeChanges (store : Store) (request : SettingsRequest) (palette : Option Palette) :
    Except Store.Failure Settings × Store :=
  match request.theme, palette with
  | none, some colours =>
    match store.saveTheme (.object colours.toFields) with
    | (.ok _, written) => written.save (changesOf request none)
    | failed => failed
  | _, _ => store.save (changesOf request palette)

/-- Whether a request chooses the custom theme where there is none. -/
def lacksTheme (store : Store) (request : SettingsRequest) (palette : Option Palette) :
    Except Store.Failure Bool := do
  if request.theme = some "custom" ∧ palette.isNone then
    return (← store.settings).customTheme.isNone
  else return false

/-- The reaction to an operation on the settings, which the session follows. -/
def settled (app : App) (session : Session) (outcome : Except Store.Failure Settings × Store) :
    Reaction :=
  let changed := { app with store := outcome.2 }
  match outcome.1 with
  | .error _ => { app := changed.withSession session, response := .crash }
  | .ok settings =>
    { app := changed.withSession (session.setPrecision settings.precision)
      response := .ok settings.toJson }

/-- Changes settings, unless the changes make no sense. -/
def updateSettings (app : App) (session : Session) (request : SettingsRequest) : Reaction :=
  let prepared := app.withSession session
  let refuse (detail : String) : Reaction :=
    { app := prepared, response := .refusal 400 detail }
  match (request.customTheme.map fun colours => Palette.ofFields (Palette.toFields colours)) with
  | some (.error fault) => refuse fault.message
  | checked =>
    let palette := checked.bind Except.toOption
    if request.precision.any (!isPrecisionText ·) then
      refuse "Rounding precision must be 'None' or an integer from 0 to 8."
    else
      match lacksTheme app.store request palette with
      | .error _ => { app := prepared, response := .crash }
      | .ok true => refuse "No custom theme has been saved."
      | .ok false => app.settled session (storeChanges app.store request palette)

/-- Returns to the default settings. -/
def resetSettings (app : App) (session : Session) : Reaction :=
  let (cleared, store) := app.store.clear
  app.settled session (cleared.bind fun () => store.settings, store)

/-- The response that shows something of the stored settings. -/
def showStored (app : App) (view : Settings → Json) : Response :=
  match app.store.settings with
  | .ok settings => .ok (view settings)
  | .error _ => .crash

/-! ## The remote model -/

/-- Solves an equation. -/
def solve (app : App) (equation : String) (world : World) : Reaction :=
  let equation := Text.trimString equation
  if equation.isEmpty then
    { app, response := .refusal 400 "Equation cannot be empty." }
  else
    let exchange := app.client.solve equation world.wire
    let response :=
      match exchange.outcome with
      | .ok answer => .ok (.object [("equation", .text equation), ("answer", .text answer)])
      | .error failure =>
        if failure.isReported then .refusal 502 FaultKind.solverFailed.label else .crash
    ⟨app, response, exchange.sent⟩

/-- The introduction of the assistant. -/
def introduction : Json :=
  .object [("greeting", .text Remote.greeting),
    ("quick_questions", .list (Remote.quickQuestions.map .text))]

/-- What a chat delivers: its texts, and an apology behind them for a failure that the remote model
reports.  Any other failure breaks the delivery off, as does a text that cannot be encoded, and what
came before has arrived. -/
def chatText (stream : Remote.Client.Stream) : String :=
  let arrived := stream.chunks.takeWhile (Text.isEncodable ·.toList)
  let isComplete := arrived.length = stream.chunks.length
  let isSorry := stream.failure.any Remote.Failure.isReported
  String.join arrived ++ if isComplete ∧ isSorry then Remote.apology else ""

/-- Passes a message on to the assistant. -/
def chat (app : App) (request : ChatRequest) (world : World) : Reaction :=
  let message := Text.trimString request.message
  if message.isEmpty then
    { app, response := .refusal 400 "Message cannot be empty." }
  else
    let exchange := app.client.chat request.history message world.wire
    ⟨app, .plain (chatText exchange.outcome), exchange.sent⟩

/-- Works out a long division. -/
def divide (app : App) (request : DivisionRequest) (world : World) : Reaction :=
  let exchange := app.client.divide (Text.trimString request.dividend)
    (Text.trimString request.divisor) world.wire
  let response :=
    match exchange.outcome with
    | .ok working => .ok (.object [("result", .text working)])
    | .error (.refused refusal) => .refusal 400 refusal.message
    | .error (.remote failure) =>
      if failure.isReported then
        .refusal 502 "An error occurred while calculating. Please try again."
      else .crash
  ⟨app, response, exchange.sent⟩

/-! ## Graphs -/

/-- Draws a graph. -/
def graph (session : Session) (request : GraphRequest) : Response :=
  let given :=
    match request.expression with
    | some expression => expression.toList
    | none => Graph.ofDisplay session.display
  let expression :=
    match request.label with
    | some label => Graph.edit given label
    | none => given
  match Graph.polylines expression request.canvas with
  | .ok polylines => .ok (graphJson expression polylines)
  | .error _ => .crash

/-! ## Handling -/

/-- The response to a request that does not fit.  It would quote the misfits, and where one of them
cannot be sent there is no such response. -/
def invalid (misfits : List Json) : Response :=
  if misfits.all Json.isSendable then .invalid else .crash

/-- Goes on with what is read from a body, or says that the request does not fit. -/
def reading {α : Type} (app : App) (body : Json) (type : FieldType α) (next : α → Reaction) :
    Reaction :=
  match type body with
  | .ok request => next request
  | .error misfits => { app, response := invalid misfits }

/-- Goes on with the session, or breaks down where there can be none. -/
def inSession (app : App) (next : Session → Reaction) : Reaction :=
  match app.ready with
  | .ok session => next session
  | .error _ => { app, response := .crash }

/-- Carries out a route with a body that has been read. -/
def carryOut (app : App) (route : Route) (body : Json) (world : World) : Reaction :=
  match route with
  | .evaluate =>
    app.reading body EvaluateRequest.read fun request =>
      { app, response := app.evaluate request }
  | .pressKey =>
    app.inSession fun session =>
      (app.withSession session).reading body (readText "label") fun label =>
        app.pressKey session label world
  | .showSession =>
    app.inSession fun session =>
      { app := app.withSession session, response := .ok (sessionJson session none) }
  | .showHistory =>
    app.inSession fun session =>
      { app := app.withSession session, response := .ok (historyJson session) }
  | .clearHistory => app.inSession fun session => app.clearHistory session
  | .showSettings => { app, response := app.showStored Settings.toJson }
  | .updateSettings =>
    app.inSession fun session =>
      (app.withSession session).reading body SettingsRequest.read fun request =>
        app.updateSettings session request
  | .resetSettings => app.inSession fun session => app.resetSettings session
  | .showTheme => { app, response := app.showStored fun settings => .object settings.palette }
  | .solve =>
    app.reading body (readText "equation") fun equation =>
      app.solve equation world
  | .introduce => { app, response := .ok introduction }
  | .chat => app.reading body ChatRequest.read fun request => app.chat request world
  | .divide => app.reading body DivisionRequest.read fun request => app.divide request world
  | .graph =>
    app.inSession fun session =>
      (app.withSession session).reading body GraphRequest.read fun request =>
        { app := app.withSession session, response := graph session request }

/-- Whether a route reads the body of its requests. -/
def readsBody : Route → Bool
  | .evaluate | .pressKey | .updateSettings | .solve | .chat | .divide | .graph => true
  | .showSession | .showHistory | .clearHistory | .showSettings | .resetSettings | .showTheme
  | .introduce => false

/-- Handles a request, apart from sending the response. -/
def answer (app : App) (request : Request) (world : World) : Reaction :=
  match request.target with
  | .unknownPath => { app, response := .refusal 404 "Not Found" }
  | .wrongMethod => { app, response := .refusal 405 "Method Not Allowed" }
  | .otherPath => { app, response := .moved }
  | .route route =>
    if readsBody route then
      match readBody request.body with
      | .ok body => app.carryOut route body world
      | .error .malformed => { app, response := .invalid }
      | .error .unreadable =>
        { app, response := .refusal 400 "There was an error parsing the body" }
    else app.carryOut route .null world

/-- Handles a request.  A response that cannot be sent breaks down, but what it reports has been
done. -/
def handle (app : App) (request : Request) (world : World) : Reaction :=
  let reaction := app.answer request world
  { reaction with response := reaction.response.sent }

end

end App

end DeskCalculator.Service
