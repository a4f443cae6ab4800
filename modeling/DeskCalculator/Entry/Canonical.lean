import DeskCalculator.Text.Blank
import DeskCalculator.Text.Digit
import DeskCalculator.Text.Word

/-!
# The canonical form of an entry

An entry may use a percent sign, the constants `π` and `e`, the power sign `^`
and a factorial sign.  Each is turned into plain arithmetic by one pass over
the text.  A pass looks for its pattern from left to right, at every position
anew, and goes on behind each place where it was found; what it has written is
not looked at again.

The numbers that these signs may stand behind are plain: a run of digits,
perhaps with a point and more digits.
-/

namespace DeskCalculator.Entry

open Text

/-! ## Passes -/

/-- A pattern with its replacement.  Given the character before a text and the text, it says how
many characters of the text are replaced and by what; at least one is replaced. -/
abbrev Rule := Option Char → List Char → Option (Nat × List Char)

/-- Applies a rule throughout a text that the character `previous` comes before. -/
def replaceAll (rule : Rule) (previous : Option Char) : List Char → List Char
  | [] => []
  | c :: rest =>
    match rule previous (c :: rest) with
    | some (length, replacement) =>
      replacement ++
        replaceAll rule ((c :: rest).take length).getLast? (rest.drop (length - 1))
    | none => c :: replaceAll rule (some c) rest
termination_by text => text.length
decreasing_by
  · simp only [List.length_drop, List.length_cons]; omega
  · simp

/-- The length of the plain number at the start of a text. -/
def plainLength (text : List Char) : Nat :=
  let whole := digitRun text
  if whole = 0 then 0
  else
    match text.drop whole with
    | '.' :: rest => if digitRun rest = 0 then whole else whole + 1 + digitRun rest
    | _ => whole

/-- The plain number at the start of a text and what follows it. -/
def plain? (text : List Char) : Option (List Char × List Char) :=
  let length := plainLength text
  if length = 0 then none else some (text.take length, text.drop length)

/-! ## The rules -/

/-- How many blanks stand at the start of a text. -/
def blankRun (text : List Char) : Nat :=
  (text.takeWhile isBlank).length

/-- A percentage that is added to a plain number or subtracted from it is that part of the
number. -/
def percentOfBase : Rule := fun _ text => do
  let (base, behindBase) ← plain? text
  match behindBase.drop (blankRun behindBase) with
  | operator :: behindOperator =>
    if operator = '+' ∨ operator = '-' then
      let (share, behindShare) ← plain? (behindOperator.drop (blankRun behindOperator))
      match behindShare with
      | '%' :: _ =>
        some (base.length + blankRun behindBase + 1 + blankRun behindOperator + share.length + 1,
          base ++ ' ' :: operator :: " (".toList ++ base ++ " * ".toList ++ share ++
            " / 100)".toList)
      | _ => none
    else none
  | [] => none

/-- Any other percentage is a number of hundredths. -/
def barePercent : Rule := fun _ text => do
  let (share, behind) ← plain? text
  match behind with
  | '%' :: _ => some (share.length + 1, '(' :: share ++ "/100)".toList)
  | _ => none

/-- The circle number. -/
def circleSign : Rule := fun _ text =>
  match text with
  | 'π' :: _ => some (1, ['P', 'I'])
  | _ => none

/-- The base of the natural logarithm, where no word character adjoins it. -/
def eulerSign : Rule := fun previous text =>
  match text with
  | 'e' :: rest =>
    if previous.any isWord ∨ rest.head?.any isWord then none else some (1, ['E'])
  | _ => none

/-- The power sign. -/
def powerSign : Rule := fun _ text =>
  match text with
  | '^' :: _ => some (1, ['*', '*'])
  | _ => none

/-- Whether a minus behind this character is taken for a subtraction. -/
def endsOperand (c : Char) : Bool :=
  isWord c || c ∈ ['.', ')', '!', '%']

/-- The factorial of a plain number.  A minus before the number goes with it, unless the character
before the minus ends an operand. -/
def factorialSign : Rule := fun previous text =>
  let (sign, number) :=
    match text with
    | '-' :: rest => if previous.any endsOperand then ([], text) else (['-'], rest)
    | _ => ([], text)
  do
    let (operand, behind) ← plain? number
    match behind with
    | '!' :: _ =>
      some (sign.length + operand.length + 1,
        "factorial(".toList ++ sign ++ operand ++ [')'])
    | _ => none

/-! ## The canonical form -/

/-- The entry with its percentages written out. -/
def withoutPercentages (entry : List Char) : List Char :=
  replaceAll barePercent none (replaceAll percentOfBase none entry)

/-- The entry in canonical notation. -/
def canonical (entry : List Char) : List Char :=
  replaceAll factorialSign none <| replaceAll powerSign none <| replaceAll eulerSign none <|
    replaceAll circleSign none <| withoutPercentages entry

end DeskCalculator.Entry
