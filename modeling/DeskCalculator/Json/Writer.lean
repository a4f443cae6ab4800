import DeskCalculator.Decimal.Layout
import DeskCalculator.Json.Basic
import DeskCalculator.Text.Quoted

/-!
# Writing JSON

Two forms of one notation: the compact one without any blanks, and the indented
one with two blanks a level, in which every item and field has a line of its
own.  Characters beyond ASCII are written as they are; only quotation marks,
backslashes and controls are escaped.  The indented form is written piece by
piece, and a piece that cannot be encoded ends the writing.
-/

namespace DeskCalculator

/-- The layout of floats in JSON. -/
def Layout.json : Layout :=
  { Layout.full with infinityText := "Infinity", nanText := "NaN" }

namespace Json

open Text

/-- One character of a JSON string. -/
def escaped (c : Char) : List Char :=
  if c = '"' ∨ c = '\\' then ['\\', c]
  else if c = '\n' then ['\\', 'n']
  else if c = '\r' then ['\\', 'r']
  else if c = '\t' then ['\\', 't']
  else if c.toNat = 0x8 then ['\\', 'b']
  else if c.toNat = 0xC then ['\\', 'f']
  else if c.toNat < 0x20 then '\\' :: 'u' :: hexadecimal 4 c.toNat
  else [c]

/-- A JSON string. -/
def writeText (value : String) : List Char :=
  '"' :: (value.toList.flatMap escaped ++ ['"'])

/-- The values that have no parts. -/
def writeAtom : Json → List Char
  | null => "null".toList
  | bool true => "true".toList
  | bool false => "false".toList
  | integer value => (toString value).toList
  | real value => (Layout.json.write value).toList
  | text value => writeText value
  | list _ => ['[', ']']
  | object _ => ['{', '}']

/-- A line break followed by the indentation of a level. -/
def newLine (level : Nat) : List Char :=
  '\n' :: List.replicate (2 * level) ' '

mutual

/-- The compact form of a value. -/
def writeCompact : Json → List Char
  | list (first :: rest) => '[' :: (writeCompact first ++ writeItems rest)
  | object ((key, first) :: rest) =>
    '{' :: (writeText key ++ ':' :: (writeCompact first ++ writeFields rest))
  | atom => writeAtom atom

/-- The further items of a list in compact form, with its closing bracket. -/
def writeItems : List Json → List Char
  | [] => [']']
  | item :: rest => ',' :: (writeCompact item ++ writeItems rest)

/-- The further fields of an object in compact form, with its closing brace. -/
def writeFields : Fields → List Char
  | [] => ['}']
  | (key, value) :: rest =>
    ',' :: (writeText key ++ ':' :: (writeCompact value ++ writeFields rest))

end

/-- The pieces of an item of a list behind what comes before it, which makes one piece with a
string. -/
def behindSeparator (before : List Char) (item : Json) (pieces : List (List Char)) :
    List (List Char) :=
  match item with
  | text value => [before ++ writeText value]
  | _ => before :: pieces

mutual

/-- The indented form of a value on a given level, in the pieces in which it is written. -/
def indentedPieces (level : Nat) : Json → List (List Char)
  | list (first :: rest) =>
    behindSeparator ('[' :: newLine (level + 1)) first (indentedPieces (level + 1) first) ++
      itemPieces level rest
  | object ((key, first) :: rest) =>
    ['{'] :: newLine (level + 1) :: writeText key :: [':', ' '] ::
      (indentedPieces (level + 1) first ++ fieldPieces level rest)
  | atom => [writeAtom atom]

/-- The further items of a list on their lines, with its closing bracket. -/
def itemPieces (level : Nat) : List Json → List (List Char)
  | [] => [newLine level, [']']]
  | item :: rest =>
    behindSeparator (',' :: newLine (level + 1)) item (indentedPieces (level + 1) item) ++
      itemPieces level rest

/-- The further fields of an object on their lines, with its closing brace. -/
def fieldPieces (level : Nat) : Fields → List (List Char)
  | [] => [newLine level, ['}']]
  | (key, value) :: rest =>
    (',' :: newLine (level + 1)) :: writeText key :: [':', ' '] ::
      (indentedPieces (level + 1) value ++ fieldPieces level rest)

end

/-- The compact text of a value. -/
def compact (value : Json) : String :=
  String.ofList (writeCompact value)

/-- The indented text of a value. -/
def indented (value : Json) : String :=
  String.ofList (indentedPieces 0 value).flatten

/-- Whether the indented text of a value can be written to its end. -/
def isWritable [Platform] (value : Json) : Bool :=
  (indentedPieces 0 value).all isEncodable

/-- What gets written of the indented text of a value: the pieces before the first that cannot be
encoded. -/
def writtenPart [Platform] (value : Json) : String :=
  String.ofList ((indentedPieces 0 value).takeWhile isEncodable).flatten

end Json

end DeskCalculator
