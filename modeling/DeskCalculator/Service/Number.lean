import DeskCalculator.Decimal.Reader
import DeskCalculator.Expr.Function
import DeskCalculator.Service.Reading

/-!
# Numbers in a request

Numbers may be given in several ways: a whole number also as a float without a
fractional part, as a truth value or as a numeral in a string, a float also as
any number, truth value or numeral.
-/

namespace DeskCalculator.Service

open Text

/-! ## Characters around and within a numeral -/

/-- Whether a character may stand around a numeral; the information separators may not. -/
def isMargin (c : Char) : Bool :=
  isBlank c && !(0x1C ≤ c.toNat && c.toNat ≤ 0x1F)

/-- A text without the characters that may stand around a numeral. -/
def withoutMargins (text : List Char) : List Char :=
  ((text.dropWhile isMargin).reverse.dropWhile isMargin).reverse

/-- Whether every underscore stands between two other characters; `open?` tells whether one may come
next. -/
def underscoresSeparate (open? : Bool) : List Char → Bool
  | [] => open?
  | '_' :: rest => open? && underscoresSeparate false rest
  | _ :: rest => underscoresSeparate true rest

/-- A text without its underscores, if each of them stands between two other characters. -/
def joined? (text : List Char) : Option (List Char) :=
  if underscoresSeparate false text then some (text.filter (· != '_')) else none

/-! ## Whole numbers -/

/-- Whether a character is one of the digits from one to nine. -/
def isCountingDigit (c : Char) : Bool :=
  c.isDigit && c != '0'

/-- What is left of a numeral behind a zero at its start, which `last` is the latest character of.
Further zeros are passed over, and so are underscores.  A minus may follow; before a point one
character is kept, and so it is where nothing follows. -/
def behindZeros? (last : Char) : List Char → Option (List Char)
  | [] => some [last]
  | c :: rest =>
    if c = '0' ∨ c = '_' then behindZeros? c rest
    else if c = '.' then some (last :: c :: rest)
    else if isCountingDigit c ∨ c = '-' then some (c :: rest)
    else none

/-- A numeral without the zeros at its start. -/
def withoutLeadingZeros? : List Char → Option (List Char)
  | [] => none
  | c :: rest =>
    if c = '0' then behindZeros? c rest
    else if isCountingDigit c ∨ c = '-' then some (c :: rest)
    else none

/-- A numeral without a plus at its start, which no minus may follow. -/
def withoutPlus? : List Char → Option (List Char)
  | '+' :: '-' :: _ => none
  | '+' :: rest => some rest
  | text => some text

/-- A numeral without a point and zeros at its end. -/
def withoutZeroFraction (text : List Char) : List Char :=
  let (whole, fraction) := text.span (· != '.')
  if 2 ≤ fraction.length ∧ (fraction.drop 1).all (· == '0') then whole else text

/-- The natural number that digits denote, which do not start with a needless zero. -/
def naturalOf? (digits : List Char) : Option Nat :=
  match digits with
  | ['0'] => some 0
  | first :: rest =>
    if isCountingDigit first ∧ rest.all Char.isDigit then some (digitsValue (first :: rest))
    else none
  | [] => none

/-- The whole number that a string denotes. -/
def integerOfText? (text : String) : Option Int := do
  let unsigned ← withoutPlus? (withoutMargins text.toList)
  let whole := withoutZeroFraction (← withoutLeadingZeros? unsigned)
  match (joined? whole).getD whole with
  | '-' :: digits => (naturalOf? digits).map fun n => -(n : Int)
  | digits => (naturalOf? digits).map fun n => (n : Int)

/-- The whole number that a value stands for. -/
def integerOf? : Json → Option Int
  | .integer n => some n
  | .bool b => some (if b then 1 else 0)
  | .real v =>
    if isWhole v then some (if v < 0.0 then -(wholePart v : Int) else wholePart v) else none
  | .text text => integerOfText? text
  | _ => none

/-! ## Floats -/

/-- The magnitude of a float that a string without a sign denotes. -/
def magnitudeOfText? (text : List Char) : Option Float :=
  match String.ofList (text.map Char.toLower) with
  | "inf" | "infinity" => some infinity
  | "nan" => some notANumber
  | _ =>
    let isNumeral := text.all fun c => c.isDigit || c ∈ ['.', 'e', 'E', '+', '-']
    if isNumeral ∧ numeralLength text = text.length ∧ text ≠ [] then
      some (Decimal.read text).toFloat
    else none

/-- The float that a string without margins denotes. -/
def signedOfText? (text : List Char) : Option Float :=
  let (negative, body) := splitSign text
  (magnitudeOfText? body).map (withSign negative)

/-- The float that a string denotes. -/
def realOfText? (text : String) : Option Float :=
  (signedOfText? (withoutMargins text.toList)).or ((joined? text.toList).bind signedOfText?)

/-- The float that a value stands for. -/
def realOf? : Json → Option Float
  | .real v => some v
  | .integer n =>
    let v := Float.ofInt n
    if v.isFinite then some v else none
  | .bool b => some (if b then 1.0 else 0.0)
  | .text text => realOfText? text
  | _ => none

/-! ## Types of fields -/

namespace FieldType

/-- A whole number between two bounds. -/
def integerWithin (low high : Int) : FieldType Int := fun part =>
  .ofOption part ((integerOf? part).filter fun n => low ≤ n && n ≤ high)

/-- A float above zero. -/
def positive : FieldType Float := fun part =>
  .ofOption part ((realOf? part).filter (0.0 < ·))

end FieldType

end DeskCalculator.Service
