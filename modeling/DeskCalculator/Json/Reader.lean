import DeskCalculator.Decimal.Reader
import DeskCalculator.Json.Encoding

/-!
# Reading JSON

A text is read lexeme by lexeme from left to right, with the lists and objects
that are still open on a stack.  The notation is that of the standard with the
numbers `NaN`, `Infinity` and `-Infinity` added.  Of fields with one name the last
counts, in the place of the first.  A whole number of more than 4300 digits is
refused as such, and so is a deeper nest of lists and objects than the platform
reads in a text from its source; every other fault makes the text malformed.
-/

namespace DeskCalculator.Json

open Text

/-- Why a text was not read. -/
inductive ReadFault where
  /-- The text is not JSON. -/
  | malformed
  /-- A whole number has more digits than are ever read. -/
  | tooLong (digits : Nat)
  /-- Too many lists and objects are open at once. -/
  | tooDeep
  deriving DecidableEq, Repr

/-! ## Lexemes -/

/-- The smallest pieces of a JSON text. -/
inductive Lexeme where
  /-- A bracket, brace, comma or colon. -/
  | mark (c : Char)
  /-- A string. -/
  | text (value : String)
  /-- A number, as it is written. -/
  | number (numeral : List Char)
  /-- A value that is written as a word. -/
  | word (value : Json)

/-- Whether blanks of this kind may stand between lexemes. -/
def isSeparator (c : Char) : Bool :=
  c ∈ [' ', '\t', '\n', '\r']

/-- The number that four hexadecimal digits at the start of a text denote. -/
def hexCode? : List Char → Option Nat
  | a :: b :: c :: d :: _ => do
    return 4096 * (← hexadecimalValue? a) + 256 * (← hexadecimalValue? b) +
      16 * (← hexadecimalValue? c) + (← hexadecimalValue? d)
  | _ => none

/-- The character that an escape denotes, from the text behind its backslash, and how many
characters of that text the escape takes.  Two escapes may stand for one character together. -/
def escape? [Platform] (behind : List Char) : Option (Char × Nat) :=
  match behind with
  | '"' :: _ => some ('"', 1)
  | '\\' :: _ => some ('\\', 1)
  | '/' :: _ => some ('/', 1)
  | 'b' :: _ => some (Char.ofNat 0x8, 1)
  | 'f' :: _ => some (Char.ofNat 0xC, 1)
  | 'n' :: _ => some ('\n', 1)
  | 'r' :: _ => some ('\r', 1)
  | 't' :: _ => some ('\t', 1)
  | 'u' :: rest => do
    let code ← hexCode? rest
    match rest.drop 4 with
    | '\\' :: 'u' :: second =>
      if isHigh code then
        let low ← hexCode? second
        if isLow low then return (Char.ofNat (joined code low), 11)
      return (characterOf code, 5)
    | _ => return (characterOf code, 5)
  | _ => none

/-- The characters of a string, from the text behind its opening quotation mark, and how many
characters of that text the string takes, with its closing mark. -/
def stringBody? [Platform] : List Char → Option (List Char × Nat)
  | [] => none
  | c :: rest =>
    if c = '"' then some ([], 1)
    else if c = '\\' then
      match escape? rest with
      | some (meant, length) => do
        let (others, taken) ← stringBody? (rest.drop length)
        return (meant :: others, 1 + length + taken)
      | none => none
    else if c.toNat < 0x20 then none
    else do
      let (others, taken) ← stringBody? rest
      return (c :: others, 1 + taken)
termination_by text => text.length
decreasing_by
  · simp only [List.length_drop, List.length_cons]; omega
  · simp

/-- The length of the whole number at the start of a text, which has no leading zeros. -/
def wholeLength : List Char → Nat
  | '0' :: _ => 1
  | digits => (digits.takeWhile Char.isDigit).length

/-- The length of a point and digits at the start of a text; without digits it is zero. -/
def pointLength : List Char → Nat
  | '.' :: rest =>
    let run := (rest.takeWhile Char.isDigit).length
    if run = 0 then 0 else 1 + run
  | _ => 0

/-- The length of an exponent at the start of a text. -/
def powerLength : List Char → Nat
  | [] => 0
  | mark :: rest =>
    if mark = 'e' ∨ mark = 'E' then
      let digits := (splitSign rest).2
      let run := (digits.takeWhile Char.isDigit).length
      if run = 0 then 0 else 1 + (rest.length - digits.length) + run
    else 0

/-- The length of the number, without its sign, at the start of a text. -/
def numberLength (text : List Char) : Nat :=
  let whole := wholeLength text
  if whole = 0 then 0
  else
    let point := pointLength (text.drop whole)
    whole + point + powerLength (text.drop (whole + point))

/-- The values that are written as words. -/
def words : List (String × Json) :=
  [("null", .null), ("true", .bool true), ("false", .bool false), ("NaN", .real (0.0 / 0.0)),
    ("Infinity", .real (1.0 / 0.0)), ("-Infinity", .real (-1.0 / 0.0))]

/-- The word at the start of a text, with its length. -/
def word? (text : List Char) : Option (Json × Nat) :=
  (words.find? fun (name, _) => name.toList.isPrefixOf text).map fun (name, value) =>
    (value, name.length)

/-- The lexeme at the start of a text, and its length. -/
def lexeme? [Platform] (text : List Char) : Option (Lexeme × Nat) :=
  match text with
  | [] => none
  | c :: rest =>
    if c ∈ ['[', ']', '{', '}', ',', ':'] then some (.mark c, 1)
    else if c = '"' then do
      let (value, taken) ← stringBody? rest
      return (.text (String.ofList value), 1 + taken)
    else
      let sign := if c = '-' then 1 else 0
      let length := numberLength (text.drop sign)
      if length ≠ 0 then some (.number (text.take (sign + length)), sign + length)
      else do
        let (value, length) ← word? text
        return (.word value, length)

/-- The value of a number. -/
def numberValue (numeral : List Char) : Except ReadFault Json :=
  let (negative, body) := splitSign numeral
  if body.all Char.isDigit then
    if numeralLimit < body.length then .error (.tooLong body.length)
    else .ok (.integer (if negative then -(digitsValue body : Int) else digitsValue body))
  else .ok (.real (withSign negative (Decimal.read body).toFloat))

/-! ## Values -/

/-- A list or an object that is still open. -/
inductive Container where
  /-- A list with its items so far, the last one first. -/
  | list (done : List Json)
  /-- An object with its fields so far. -/
  | object (done : Fields)
  /-- An object that waits for the value of a field. -/
  | field (done : Fields) (key : String)

/-- What may come next. -/
inductive Stage where
  /-- A value. -/
  | value
  /-- A value, or the end of a list that has no items yet. -/
  | firstItem
  /-- The key of a field. -/
  | key
  /-- A key, or the end of an object that has no fields yet. -/
  | firstKey
  /-- The colon behind a key. -/
  | colon
  /-- Whatever follows a value that has been read. -/
  | after (value : Json)

/-- The containers that are open, innermost first, and what may come next. -/
structure Reading where
  opened : List Container
  stage : Stage

section

variable (limit : Nat)

/-- Opens one more list or object, of which at most `limit` may be open at once. -/
def openContainer (opened : List Container) (container : Container) (stage : Stage) :
    Except ReadFault Reading :=
  if opened.length < limit then .ok ⟨container :: opened, stage⟩ else .error .tooDeep

/-- A lexeme where a value is due. -/
def takeValue (opened : List Container) (lexeme : Lexeme) : Except ReadFault Reading :=
  match lexeme with
  | .mark '[' => openContainer limit opened (.list []) .firstItem
  | .mark '{' => openContainer limit opened (.object []) .firstKey
  | .mark _ => .error .malformed
  | .text value => .ok ⟨opened, .after (.text value)⟩
  | .number numeral => do return ⟨opened, .after (← numberValue numeral)⟩
  | .word value => .ok ⟨opened, .after value⟩

/-- A lexeme where a key is due. -/
def takeKey (opened : List Container) (lexeme : Lexeme) : Except ReadFault Reading :=
  match lexeme, opened with
  | .text key, .object done :: rest => .ok ⟨.field done key :: rest, .colon⟩
  | _, _ => .error .malformed

/-- Takes one lexeme. -/
def Reading.step (reading : Reading) (lexeme : Lexeme) : Except ReadFault Reading :=
  match reading with
  | ⟨opened, .value⟩ => takeValue limit opened lexeme
  | ⟨opened, .firstItem⟩ =>
    match lexeme, opened with
    | .mark ']', .list done :: rest => .ok ⟨rest, .after (.list done.reverse)⟩
    | _, _ => takeValue limit opened lexeme
  | ⟨opened, .key⟩ => takeKey opened lexeme
  | ⟨opened, .firstKey⟩ =>
    match lexeme, opened with
    | .mark '}', .object done :: rest => .ok ⟨rest, .after (.object done)⟩
    | _, _ => takeKey opened lexeme
  | ⟨opened, .colon⟩ =>
    match lexeme with
    | .mark ':' => .ok ⟨opened, .value⟩
    | _ => .error .malformed
  | ⟨opened, .after value⟩ =>
    match lexeme, opened with
    | .mark ',', .list done :: rest => .ok ⟨.list (value :: done) :: rest, .value⟩
    | .mark ']', .list done :: rest => .ok ⟨rest, .after (.list (value :: done).reverse)⟩
    | .mark ',', .field done key :: rest => .ok ⟨.object (done.set key value) :: rest, .key⟩
    | .mark '}', .field done key :: rest => .ok ⟨rest, .after (.object (done.set key value))⟩
    | _, _ => .error .malformed

end

/-- The value that has been read when the text is at its end. -/
def Reading.finish : Reading → Except ReadFault Json
  | ⟨[], .after value⟩ => .ok value
  | _ => .error .malformed

/-- Reads a text to its end. -/
def Reading.run [Platform] (limit : Nat) (reading : Reading) : List Char → Except ReadFault Json
  | [] => reading.finish
  | c :: rest =>
    if isSeparator c then run limit reading rest
    else
      match lexeme? (c :: rest) with
      | none => .error .malformed
      | some (lexeme, length) => do
        let next ← reading.step limit lexeme
        next.run limit (rest.drop (length - 1))
termination_by text => text.length
decreasing_by
  · simp
  · simp only [List.length_drop, List.length_cons]; omega

/-- The value that a JSON text from a source denotes. -/
def read [Platform] (source : JsonSource) (text : String) : Except ReadFault Json :=
  Reading.run (Platform.nesting source) ⟨[], .value⟩ text.toList

end DeskCalculator.Json
