import DeskCalculator.Address
import DeskCalculator.Json.Reader
import DeskCalculator.Remote.Payload
import DeskCalculator.Remote.Prompt
import DeskCalculator.Text.Blank
import DeskCalculator.Text.Lines

/-!
# The client of the remote model

Solving an equation, working out a long division and chatting each send at most
one request.  What comes back is a function of that request, so an operation is
given such a function and says what it sent beside what came of it.

A reply counts only with a status of success.  One answer is read as a JSON
payload; a stream is read line by line, and what came before a line that cannot
be read has been delivered.  A reply can break off.  Then there is no answer in
it, but of a stream the lines that had ended have been read.
-/

namespace DeskCalculator.Remote

open Text

/-! ## The wire -/

/-- A request as it is sent. -/
structure Request where
  method : String
  url : String
  key : String
  body : Json

/-- The body of a response, or what has arrived of it. -/
structure Body where
  /-- Its bytes. -/
  bytes : ByteArray
  /-- The text that they stand for, in the encoding that the response names. -/
  text : String

/-- What comes back. -/
inductive Reply where
  /-- A response with a status and a body. -/
  | response (status : Nat) (body : Body)
  /-- A response with a status that breaks off behind a part of its body. -/
  | broken (status : Nat) (arrived : Body)
  /-- The service could not be reached, or the connection failed before there was a response. -/
  | unreachable
  /-- The address turned out to be none. -/
  | badAddress

/-- How the service answers a request. -/
abbrev Wire := Request → Reply

/-- What was sent in an operation, and what came of it. -/
structure Exchange (α : Type) where
  sent : List Request
  outcome : α

/-! ## The client -/

/-- The address of the service. -/
def defaultAddress : String := "https://generativelanguage.googleapis.com/v1beta"

/-- The model that is asked. -/
def defaultModel : String := "gemini-2.5-flash"

/-- Access to a model. -/
structure Client where
  /-- The key that is sent with each request. -/
  key : Option String
  /-- The name of the model. -/
  model : String
  /-- The address of the service, without a slash at its end. -/
  address : String

/-- A text without slashes at its end. -/
def withoutSlashes (text : String) : String :=
  String.ofList (text.toList.reverse.dropWhile (· == '/')).reverse

namespace Client

/-- A client for a service at an address. -/
def new (key : Option String) (model address : String) : Client :=
  ⟨key, model, withoutSlashes address⟩

/-- The client that the environment describes.  The first of two keys counts if there is something
in it. -/
def ofEnvironment (valueOf? : String → Option String) : Client :=
  let key :=
    match valueOf? "GEMINI_API_KEY" with
    | some key => if key.isEmpty then valueOf? "API_KEY" else some key
    | none => valueOf? "API_KEY"
  .new key ((valueOf? "GEMINI_MODEL").getD defaultModel) defaultAddress

/-- Whether a character is not ASCII. -/
def isBeyondAscii (c : Char) : Bool := 128 ≤ c.toNat

/-- Where an operation of the model is asked for, relative to the service. -/
def operationPath (client : Client) (operation : String) : String :=
  "/models/" ++ client.model ++ ":" ++ operation

section

variable [Platform]

/-- The request for an operation, or why there is none; `failed` is the failure of something that
cannot be sent: a key or a host beyond ASCII, or a body with a text that cannot be encoded.  The
address of the service is looked at first, then the key, the model and the rest. -/
def request (client : Client) (failed : Failure) (operation : String)
    (query : Option String) (body : Json) : Except Failure Request :=
  let key := client.key.getD ""
  if key.isEmpty then .error .noKey
  else
    match Address.ofText? client.address with
    | none => .error .badAddress
    | some service =>
      if key.toList.any isBeyondAscii then .error failed
      else
        match (Address.ofText? (client.operationPath operation)).bind service.below? with
        | none => .error .badAddress
        | some address =>
          let url := { address with query := (query.map String.toList).or address.query }.text
          if address.authority.any isBeyondAscii ∨ !body.isSendable then .error failed
          else .ok ⟨"POST", url, key, body⟩

/-- A reply as it is received.  Not every address is one that a response is taken from. -/
def received (request : Request) (reply : Reply) : Reply :=
  match reply with
  | .response .. | .broken .. =>
    if Address.takesResponse request.url.toList then reply else .unreachable
  | .unreachable | .badAddress => reply

/-- Refuses a status other than one of success. -/
def checkStatus (failed : Failure) (status : Nat) : Except Failure Unit :=
  if 200 ≤ status ∧ status < 300 then .ok () else .error failed

/-- The failure of an operation whose payload is not read; `failed` is its ordinary failure. -/
def readFailure (failed : Failure) : Json.ReadFault → Failure
  | .tooDeep => .tooDeep
  | .malformed | .tooLong _ => failed

/-- The payload in a text. -/
def payload (failed : Failure) (text : String) : Except Failure Json :=
  (Json.read .reply text).mapError (readFailure failed)

/-- The payload in a body. -/
def bodyPayload (body : Body) : Except Failure Json :=
  match Json.textOfBody? body.bytes with
  | some text => payload .generateFailed text
  | none => .error .generateFailed

/-- The answer in a body. -/
def bodyAnswer (body : Body) : Except Failure String := do
  let value ← bodyPayload body
  let answer ← answerText value
  return trimString answer

/-- The answer in a reply, which has to be complete. -/
def readAnswer : Reply → Except Failure String
  | .response status body => do
    checkStatus .generateFailed status
    bodyAnswer body
  | .broken .. | .unreachable => .error .generateFailed
  | .badAddress => .error .badAddress

/-- Asks for the answer to one prompt. -/
def generate (client : Client) (instruction prompt : String) (wire : Wire) :
    Exchange (Except Failure String) :=
  let body := requestBody instruction [⟨userRole, prompt⟩]
  match client.request .generateFailed "generateContent" none body with
  | .error failure => ⟨[], .error failure⟩
  | .ok request => ⟨[request], readAnswer (received request (wire request))⟩

/-! ## Solving -/

/-- Refuses a blank answer. -/
def nonEmpty (answer : String) : Except Failure String :=
  if answer.isEmpty then .error .emptyAnswer else .ok answer

/-- Asks for the solution of an equation. -/
def solve (client : Client) (equation : String) (wire : Wire) :
    Exchange (Except Failure String) :=
  let exchange := client.generate solverInstruction (equationPrompt equation) wire
  ⟨exchange.sent, exchange.outcome.bind nonEmpty⟩

/-! ## Chatting -/

/-- What a stream has delivered, and the failure that ended it, if any. -/
structure Stream where
  chunks : List String
  failure : Option Failure
  deriving DecidableEq, Repr

/-- What a line of a stream says: nothing, a text, or that the stream cannot be read. -/
def lineText (line : List Char) : Except Failure (Option String) :=
  let mark := "data:".toList
  if mark.isPrefixOf line then do
    let value ← payload .streamFailed (String.ofList (line.drop mark.length))
    let text ← answerText value
    return if text.isEmpty then none else some text
  else .ok none

/-- A text of the stream as it is delivered. -/
def delivered (text : String) : String :=
  String.ofList (text.toList.filter (· != '$'))

/-- Reads the lines of a stream. -/
def readLines : List (List Char) → Stream
  | [] => ⟨[], none⟩
  | line :: rest =>
    match lineText line with
    | .error failure => ⟨[], some failure⟩
    | .ok none => readLines rest
    | .ok (some text) =>
      let further := readLines rest
      ⟨delivered text :: further.chunks, further.failure⟩

/-- A stream that nothing follows but a failure, unless it has failed already. -/
def Stream.endingIn (failure : Failure) (stream : Stream) : Stream :=
  { stream with failure := stream.failure.or (some failure) }

/-- Reads a stream whose response has this status. -/
def withStatus (status : Nat) (stream : Stream) : Stream :=
  match checkStatus .streamFailed status with
  | .ok () => stream
  | .error failure => ⟨[], some failure⟩

/-- Reads a reply that is a stream. -/
def readStream : Reply → Stream
  | .response status body => withStatus status (readLines (lines body.text.toList))
  | .broken status arrived =>
    withStatus status ((readLines (finishedLines arrived.text.toList)).endingIn .streamFailed)
  | .unreachable => ⟨[], some .streamFailed⟩
  | .badAddress => ⟨[], some .badAddress⟩

/-- Continues a conversation with a message. -/
def chat (client : Client) (history : List Turn) (message : String) (wire : Wire) :
    Exchange Stream :=
  let body := requestBody assistantInstruction (contents history message)
  match client.request .streamFailed "streamGenerateContent" (some "alt=sse") body with
  | .error failure => ⟨[], ⟨[], some failure⟩⟩
  | .ok request => ⟨[request], readStream (received request (wire request))⟩

end

end Client

end DeskCalculator.Remote
