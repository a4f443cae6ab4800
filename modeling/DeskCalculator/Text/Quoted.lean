import DeskCalculator.Text.Hexadecimal
import DeskCalculator.Text.Printable
import DeskCalculator.Text.Surrogate

/-!
# Quoted text in messages

Messages show a piece of the user's text between quotation marks, so that its
ends and its invisible characters can be seen.  The mark is an apostrophe,
unless the text holds an apostrophe and no double quote.  The mark itself and
the backslash are escaped by a backslash, line feed, carriage return and tab
have letters, and any other character that does not show as itself is written
by its code point in hexadecimal, half of a surrogate pair by its unit.
-/

namespace DeskCalculator.Text

/-- A code point as an escape of the shortest of the three forms that holds it. -/
def escapedCode (code : Nat) : List Char :=
  if code < 0x100 then '\\' :: 'x' :: hexadecimal 2 code
  else if code < 0x10000 then '\\' :: 'u' :: hexadecimal 4 code
  else '\\' :: 'U' :: hexadecimal 8 code

variable [Platform]

/-- One character of a quoted text, between quotation marks `mark`. -/
def quotedChar (mark c : Char) : List Char :=
  if c = mark ∨ c = '\\' then ['\\', c]
  else if c = '\n' then ['\\', 'n']
  else if c = '\r' then ['\\', 'r']
  else if c = '\t' then ['\\', 't']
  else if isHalf c then escapedCode (0xD800 + (c.toNat - Platform.firstHalf))
  else if isPrintable c then [c]
  else escapedCode c.toNat

/-- The quotation mark for a text. -/
def quotationMark (text : List Char) : Char :=
  if '\'' ∈ text ∧ '"' ∉ text then '"' else '\''

/-- A text between quotation marks. -/
def quoteChars (text : List Char) : List Char :=
  let mark := quotationMark text
  mark :: (text.flatMap (quotedChar mark) ++ [mark])

/-- A string between quotation marks. -/
def quote (text : String) : String :=
  String.ofList (quoteChars text.toList)

/-- A list of strings, each between quotation marks, in square brackets. -/
def quoteList (texts : List String) : String :=
  "[" ++ String.intercalate ", " (texts.map quote) ++ "]"

end DeskCalculator.Text
