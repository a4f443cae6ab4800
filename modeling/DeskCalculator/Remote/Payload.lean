import DeskCalculator.Json.Basic

/-!
# The answer in a payload

A reply of the model holds its answer in the text of the parts of the content of
the first candidate.  The payload may be any JSON value: one of another shape is
unexpected, and a part that is no object cannot even be asked for its text.
-/

namespace DeskCalculator.Remote

/-- Why a remote operation has no result. -/
inductive Failure where
  /-- There is no key to send. -/
  | noKey
  /-- A request for an answer could not be completed. -/
  | generateFailed
  /-- A request for a stream of answers could not be completed. -/
  | streamFailed
  /-- The payload has another shape than that of an answer. -/
  | unexpectedPayload
  /-- The answer is blank. -/
  | emptyAnswer
  /-- A part of the answer is no object. -/
  | partNotObject
  /-- The address of the service is none. -/
  | badAddress
  /-- The payload nests lists and objects too deeply. -/
  | tooDeep
  deriving DecidableEq, Repr

/-- Whether a failure is reported as one of the remote service; any other goes through as it
is. -/
def Failure.isReported : Failure → Bool
  | partNotObject | badAddress | tooDeep => false
  | noKey | generateFailed | streamFailed | unexpectedPayload | emptyAnswer => true

/-- The message of a failure. -/
def Failure.message : Failure → String
  | noKey => "No API key configured (set GEMINI_API_KEY or API_KEY)."
  | generateFailed => "generateContent failed"
  | streamFailed => "streamGenerateContent failed"
  | unexpectedPayload => "Unexpected response payload"
  | emptyAnswer => "Empty answer from solver"
  | partNotObject => "A part of the answer is not an object"
  | badAddress => "The address of the service is not valid"
  | tooDeep => "The payload is nested too deeply"

/-- The first item of a list that is not empty. -/
def first? : Json → Option Json
  | .list (item :: _) => some item
  | _ => none

/-- The value that stands in the place of the parts. -/
def parts? (payload : Json) : Option Json := do
  let candidates ← payload.field? "candidates"
  let candidate ← first? candidates
  let content ← candidate.field? "content"
  content.field? "parts"

/-- What the parts consist of: the items of a list, the keys of an object or the characters of a
string.  Other values have no parts. -/
def items? : Json → Option (List Json)
  | .list items => some items
  | .object fields => some (fields.map fun (key, _) => .text key)
  | .text value => some (value.toList.map fun c => .text c.toString)
  | _ => none

/-- The text of a part, which is empty unless it says otherwise. -/
def partText (part : Json) : Except Failure Json :=
  match part.fields? with
  | some fields => .ok ((fields.get? "text").getD (.text ""))
  | none => .error .partNotObject

/-- The answer in a payload. -/
def answerText (payload : Json) : Except Failure String := do
  let some items := (parts? payload).bind items? | throw .unexpectedPayload
  let texts ← items.mapM partText
  match texts.mapM Json.text? with
  | some strings => return String.join strings
  | none => throw .unexpectedPayload

end DeskCalculator.Remote
