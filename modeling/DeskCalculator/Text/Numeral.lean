import DeskCalculator.Text.Blank
import DeskCalculator.Text.Digit
import DeskCalculator.Text.Quoted

/-!
# Whole numbers in text

How a whole number is read from text that a person or a file supplies: blanks
around it, one sign, then decimal digits of any script, with single underscores
allowed between two of them.  More than 4300 digits are refused, whatever
follows them.
-/

namespace DeskCalculator.Text

/-- Why a text was not read as a whole number. -/
inductive NumeralFault where
  /-- The text has another form. -/
  | malformed
  /-- The number has more digits than are ever read. -/
  | tooLong (digits : Nat)
  deriving DecidableEq, Repr

/-- The most digits that a whole number may have. -/
def numeralLimit : Nat := 4300

/-- The message about a number of too many digits. -/
def tooLongMessage (digits : Nat) : String :=
  s!"Exceeds the limit ({numeralLimit} digits) for integer string conversion: " ++
    s!"value has {digits} digits; use sys.set_int_max_str_digits() to increase the limit"

/-- The message about `source`, which was not read as a whole number.  Of a long text only the
first two hundred characters of its quoted form are shown. -/
def NumeralFault.message [Platform] (source : String) : NumeralFault → String
  | malformed =>
    "invalid literal for int() with base 10: " ++
      String.ofList ((quoteChars source.toList).take 200)
  | tooLong digits => tooLongMessage digits

/-- Whether a character may stand around a number: within ASCII only the space and the five
layout controls, beyond it every blank. -/
def isNumeralBlank (c : Char) : Bool :=
  if c.toNat < 128 then c == ' ' || (0x9 ≤ c.toNat && c.toNat ≤ 0xD) else isBlank c

/-- Whether the underscores in a run of digits all stand between two digits; `open?` tells whether
an underscore may come next. -/
def separated (open? : Bool) : List Char → Bool
  | [] => open?
  | c :: rest => if c = '_' then open? && separated false rest else separated true rest

/-- Splits a sign off the start of a text; the flag is `true` for a minus. -/
def splitSign : List Char → Bool × List Char
  | '-' :: rest => (true, rest)
  | '+' :: rest => (false, rest)
  | text => (false, text)

/-- Reads a whole number. -/
def readInteger (text : List Char) : Except NumeralFault Int :=
  let (negative, body) := splitSign (text.dropWhile isNumeralBlank)
  let run := body.takeWhile fun c => isDigit c || c == '_'
  let digits := run.filter (· != '_')
  if !separated false run then .error .malformed
  else if numeralLimit < digits.length then .error (.tooLong digits.length)
  else if !(body.drop run.length).all isNumeralBlank then .error .malformed
  else .ok (if negative then -(digitsValue digits : Int) else digitsValue digits)

end DeskCalculator.Text
