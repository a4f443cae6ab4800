import DeskCalculator.Address
import DeskCalculator.Graph
import DeskCalculator.Json.Reader
import DeskCalculator.Remote.Prompt
import DeskCalculator.Service.Number

/-!
# Requests to the service

A request has a method, a path and a body.  The body of a route that expects one
is a JSON object, from which the route's own request is read; one that does not
fit is invalid.
-/

namespace DeskCalculator.Service

/-- A request. -/
structure Request where
  method : String
  path : String
  /-- The body, which is empty if there is none. -/
  body : ByteArray

/-! ## Routes -/

/-- What the service can be asked for. -/
inductive Route where
  | evaluate
  | pressKey
  | showSession
  | showHistory
  | clearHistory
  | showSettings
  | updateSettings
  | resetSettings
  | showTheme
  | solve
  | introduce
  | chat
  | divide
  | graph
  deriving DecidableEq, Repr

/-- The method and the path of each route. -/
def routes : List (String × String × Route) := [
  ("POST", "/api/evaluate", .evaluate),
  ("POST", "/api/keypad", .pressKey),
  ("GET", "/api/session", .showSession),
  ("GET", "/api/history", .showHistory),
  ("DELETE", "/api/history", .clearHistory),
  ("GET", "/api/settings", .showSettings),
  ("PUT", "/api/settings", .updateSettings),
  ("DELETE", "/api/settings", .resetSettings),
  ("GET", "/api/theme", .showTheme),
  ("POST", "/api/solve", .solve),
  ("GET", "/api/assistant", .introduce),
  ("POST", "/api/chat", .chat),
  ("POST", "/api/long-division", .divide),
  ("POST", "/api/graph", .graph)]

/-- Where a request leads. -/
inductive Target where
  | route (route : Route)
  | unknownPath
  | wrongMethod
  /-- There would be a route without the slashes at the end of the path. -/
  | otherPath
  deriving DecidableEq, Repr

/-- The address of the service. -/
def serviceAddress : Address :=
  { scheme := "http".toList, authority := "localhost".toList, path := [], query := none,
    fragment := none }

/-- The path that a request leads to, with its escapes resolved. -/
def resolvedPath? (path : String) : Option (List Char) := do
  let address ← serviceAddress.below? (← Address.ofText? path)
  return Address.unescape address.path

/-- Whether a path is that of a route; a line feed may follow it. -/
def isPathOf (path : List Char) (known : String) : Bool :=
  path == known.toList || path == known.toList ++ ['\n']

/-- The methods and routes of a path. -/
def routesAt (path : List Char) : List (String × Route) :=
  (routes.filter fun (_, known, _) => isPathOf path known).map fun (method, _, route) =>
    (method, route)

/-- Where a request leads.  Its method may be written in letters of either case. -/
def Request.target (request : Request) : Target :=
  let path := (resolvedPath? request.path).getD []
  match routesAt path, (routesAt path).lookup (request.method.map Char.toUpper) with
  | _ :: _, some route => .route route
  | _ :: _, none => .wrongMethod
  | [], _ =>
    let bare := (path.reverse.dropWhile (· == '/')).reverse
    if (routesAt bare).isEmpty then .unknownPath else .otherPath

/-! ## Bodies -/

/-- Why a body was not read. -/
inductive BodyFault where
  /-- It is not JSON. -/
  | malformed
  /-- Its bytes are no text, a number in it is too long or its values are nested too deeply. -/
  | unreadable
  deriving DecidableEq, Repr

/-- The value of a body.  An empty body counts as `null`. -/
def readBody [Platform] (body : ByteArray) : Except BodyFault Json :=
  if body.isEmpty then .ok .null
  else
    match (Json.textOfBody? body).map (Json.read .request) with
    | none => .error .unreadable
    | some (.ok value) => .ok value
    | some (.error .malformed) => .error .malformed
    | some (.error (.tooLong _)) | some (.error .tooDeep) => .error .unreadable

/-- A request to evaluate an entry. -/
structure EvaluateRequest where
  expression : String
  precision : Precision
  deriving DecidableEq

/-- A request to change settings. -/
structure SettingsRequest where
  theme : Option String
  customTheme : Option (List (String × String))
  precision : Option String
  deriving DecidableEq

/-- A message to the assistant. -/
structure ChatRequest where
  history : List Remote.Turn
  message : String
  deriving DecidableEq

/-- A request for a long division. -/
structure DivisionRequest where
  dividend : String
  divisor : String
  deriving DecidableEq

/-- A request for a graph. -/
structure GraphRequest where
  /-- The expression; without one it comes from the display. -/
  expression : Option String
  /-- A key of the graph panel to press first. -/
  label : Option String
  canvas : Graph.Canvas

open FieldType

/-- Reads a request to evaluate an entry. -/
def EvaluateRequest.read : FieldType EvaluateRequest :=
  record fun fields =>
    ((required text fields "expression").and
      (optional (integerWithin 0 8) fields "precision")).map
        fun (expression, precision) => ⟨expression, precision⟩

/-- Reads a request to change settings. -/
def SettingsRequest.read : FieldType SettingsRequest :=
  record fun fields =>
    ((optional (oneOf ["light", "dark", "custom"]) fields "theme").and
      ((optional texts fields "custom_theme").and
        (optional text fields "rounding_precision"))).map
          fun (theme, customTheme, precision) => ⟨theme, customTheme, precision⟩

/-- Reads a turn of a conversation. -/
def readTurn : FieldType Remote.Turn :=
  record fun fields =>
    ((required (oneOf ["user", "model"]) fields "role").and (required text fields "text")).map
      fun (role, said) => ⟨role, said⟩

/-- Reads a message to the assistant. -/
def ChatRequest.read : FieldType ChatRequest :=
  record fun fields =>
    ((withDefault (listOf readTurn) fields "history" []).and
      (required text fields "message")).map
        fun (history, message) => ⟨history, message⟩

/-- Reads a request for a long division. -/
def DivisionRequest.read : FieldType DivisionRequest :=
  record fun fields =>
    ((required text fields "dividend").and (required text fields "divisor")).map
      fun (dividend, divisor) => ⟨dividend, divisor⟩

/-- Reads a canvas, each side of which has a default. -/
def readCanvas (fields : Json.Fields) : Reading Graph.Canvas :=
  let side := integerWithin 1 4000
  ((withDefault side fields "width" Graph.Canvas.default.width).and
    ((withDefault side fields "height" Graph.Canvas.default.height).and
      (withDefault positive fields "scale" Graph.Canvas.default.scale))).map
        fun (width, height, scale) => ⟨width, height, scale⟩

/-- Reads a request for a graph. -/
def GraphRequest.read : FieldType GraphRequest :=
  record fun fields =>
    ((optional text fields "expression").and
      ((optional text fields "label").and (readCanvas fields))).map
        fun (expression, label, canvas) => ⟨expression, label, canvas⟩

/-- Reads the text of one field. -/
def readText (key : String) : FieldType String :=
  record fun fields => required text fields key

end DeskCalculator.Service
