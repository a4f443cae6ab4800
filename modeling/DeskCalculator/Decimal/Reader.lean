import DeskCalculator.Decimal.Basic
import DeskCalculator.Text.Numeral

/-!
# Reading numerals

A numeral is a run of digits, perhaps with a point somewhere in it or at either
end, perhaps followed by an exponent.  The lengths here measure the longest
such text at the start of a list of characters; `Decimal.read` gives the number
that it denotes.
-/

namespace DeskCalculator

open Text

/-- How many characters of digits and one point stand at the start of a text; a point alone is
none. -/
def mantissaLength (text : List Char) : Nat :=
  let whole := digitRun text
  match text.drop whole with
  | '.' :: rest =>
    let fraction := digitRun rest
    if whole = 0 ∧ fraction = 0 then 0 else whole + 1 + fraction
  | _ => whole

/-- The length of an exponent, with its mark and sign, at the start of a text.  A mark without
digits is none. -/
def exponentLength : List Char → Nat
  | [] => 0
  | mark :: rest =>
    if mark = 'e' ∨ mark = 'E' then
      let digits := (splitSign rest).2
      let run := digitRun digits
      if run = 0 then 0 else 1 + (rest.length - digits.length) + run
    else 0

/-- The length of the longest numeral at the start of a text. -/
def numeralLength (text : List Char) : Nat :=
  let mantissa := mantissaLength text
  if mantissa = 0 then 0 else mantissa + exponentLength (text.drop mantissa)

namespace Decimal

/-- The exponent that a text, which follows a mantissa, denotes. -/
def readExponent : List Char → Int
  | [] => 0
  | _ :: rest =>
    let (negative, digits) := splitSign rest
    if negative then -(digitsValue digits : Int) else digitsValue digits

/-- The number that a numeral denotes. -/
def read (numeral : List Char) : Decimal :=
  let whole := numeral.takeWhile isDigit
  let behind := numeral.drop whole.length
  let fraction :=
    match behind with
    | '.' :: rest => rest.takeWhile isDigit
    | _ => []
  let tail := numeral.drop (mantissaLength numeral)
  ⟨digitsValue (whole ++ fraction), readExponent tail - fraction.length⟩

end Decimal

end DeskCalculator
