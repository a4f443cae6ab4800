import DeskCalculator.Graph
import DeskCalculator.Keypad.Session
import DeskCalculator.Settings.Basic

/-!
# Responses of the service

A response is a JSON value with a status or a plain text.  A request that does
not fit its route and a request that could not be completed have responses of
their own.
-/

namespace DeskCalculator.Service

/-- A response. -/
inductive Response where
  /-- A JSON value. -/
  | json (status : Nat) (body : Json)
  /-- A plain text. -/
  | plain (text : String)
  /-- The request is sent on to another path. -/
  | moved
  /-- The request does not fit its route. -/
  | invalid
  /-- The request could not be completed. -/
  | crash

namespace Response

/-- The status of a response. -/
def status : Response → Nat
  | json status _ => status
  | plain _ => 200
  | moved => 307
  | invalid => 422
  | crash => 500

/-- The type of the content of a plain text. -/
def plainType : String := "text/plain; charset=utf-8"

/-- A successful response. -/
def ok (body : Json) : Response := json 200 body

/-- A response that says why a request is refused. -/
def refusal (status : Nat) (detail : String) : Response :=
  json status (.object [("detail", .text detail)])

/-- A response as it is sent. -/
def sent [Platform] : Response → Response
  | json status body => if body.isSendable then json status body else crash
  | other => other

end Response

/-! ## What is shown -/

/-- A float, for which `null` stands if it is not finite. -/
def realJson (v : Float) : Json :=
  if v.isFinite then .real v else .null

/-- A line of the history. -/
def entryJson (entry : HistoryEntry) : Json :=
  .object [("expression", .text entry.expression), ("result", .text entry.result),
    ("timestamp", .text entry.timestamp), ("entry", .text entry.text)]

/-- The history of a session. -/
def historyJson (session : Session) : Json :=
  .list (session.history.map entryJson)

/-- The name of the failure that stands on the display. -/
def shownFailure (session : Session) : Option String :=
  (FaultKind.ofLabel? (String.ofList session.display)).map FaultKind.name

/-- A session, with the action that a key asked for. -/
def sessionJson (session : Session) (action : Option String) : Json :=
  .object [("display", .text (String.ofList session.display)),
    ("fraction", .ofText? session.fraction),
    ("state", .text session.mode.name),
    ("error", .ofText? (shownFailure session)),
    ("is_solving", .bool session.isSolving),
    ("panel", .ofText? session.panel),
    ("action", .ofText? action),
    ("history", historyJson session)]

/-- A result. -/
def presentationJson (result : Presentation) : Json :=
  .object [("display", .text result.display), ("value", realJson result.value),
    ("fraction", .ofText? result.fraction), ("error", .null)]

/-- A failure to evaluate. -/
def faultJson (fault : Fault) : Json :=
  .object [("display", .text fault.kind.label), ("value", .null), ("fraction", .null),
    ("error", .text fault.kind.name)]

/-- A point of a graph. -/
def pointJson (point : Graph.Point) : Json :=
  .list [realJson point.x, realJson point.y]

/-- A graph. -/
def graphJson (expression : List Char) (polylines : List (List Graph.Point)) : Json :=
  .object [("expression", .text (String.ofList expression)),
    ("polylines", .list (polylines.map fun polyline => .list (polyline.map pointJson)))]

end DeskCalculator.Service
