import DeskCalculator.Fault
import DeskCalculator.Text.Blank

/-!
# Checks on an entry before it is read

An entry is what stands on the display, as a list of characters.  Three things
about it are checked before it is brought to canonical form and parsed, so that a plain mistake
gets a plain answer: something must be left when an unfinished operator at its
end is dropped, its parentheses must balance in number, and each call of a
function of two arguments must have two arguments that are not blank.
-/

namespace DeskCalculator.Entry

open Text

/-- The binary operators of the keypad. -/
def operators : List Char := ['+', '-', '*', '/', '^']

/-! ## Unfinished operators -/

/-- The entry without an operator at its end. -/
def withoutOpenOperator (entry : List Char) : List Char :=
  match entry.getLast? with
  | some c => if c ∈ operators then entry.dropLast else entry
  | none => entry

/-- Drops one operator at the end, and refuses an entry of which nothing but blanks is left. -/
def strip (entry : List Char) : Except Fault (List Char) :=
  let rest := withoutOpenOperator entry
  if isBlankText rest then .error .emptyExpression else .ok rest

/-! ## Parentheses -/

/-- Refuses an entry with unequal numbers of opening and closing parentheses. -/
def checkParentheses (entry : List Char) : Except Fault Unit :=
  let opening := entry.count '('
  let closing := entry.count ')'
  if opening = closing then .ok () else .error (.unbalanced opening closing)

/-! ## Arguments -/

/-- The pieces of the text behind an opening parenthesis, up to the parenthesis that closes it or
to the end, as they are separated by the commas that stand in no further parentheses.  There is
always a first piece, which is given apart from the others; `depth` counts the further parentheses
that are open. -/
def pieces (depth : Nat) : List Char → List Char × List (List Char)
  | [] => ([], [])
  | c :: rest =>
    if c = ')' ∧ depth = 0 then ([], [])
    else if c = ',' ∧ depth = 0 then
      let (first, others) := pieces 0 rest
      ([], first :: others)
    else
      let inner := if c = '(' then depth + 1 else if c = ')' then depth - 1 else depth
      let (first, others) := pieces inner rest
      (c :: first, others)

/-- The arguments of a call, from the text behind its opening parenthesis. -/
def callArguments (behind : List Char) : List (List Char) :=
  let (first, others) := pieces 0 behind
  first :: others

/-- The functions that take two arguments, in the order in which they are looked for. -/
def pairFunctions : List String := ["root", "nPr", "nCr"]

/-- The text behind `start`, if the text starts with it. -/
def behind? (start : List Char) (text : List Char) : Option (List Char) :=
  if start.isPrefixOf text then some (text.drop start.length) else none

/-- The call of a function of two arguments at the start of a text: its name, and the text behind
the parenthesis, which blanks may precede. -/
def pairCall? (text : List Char) : Option (String × List Char) :=
  pairFunctions.findSome? fun function => do
    let rest ← behind? function.toList text
    let inside ← behind? ['('] (rest.dropWhile isBlank)
    return (function, inside)

/-- The calls of functions of two arguments in a text, from left to right.  A name that a letter
precedes is part of another name; `previous` is the character before the text. -/
def pairCalls (previous : Option Char) : List Char → List (String × List Char)
  | [] => []
  | c :: rest =>
    let others := pairCalls (some c) rest
    if previous.any Char.isAlpha then others
    else (pairCall? (c :: rest)).toList ++ others

/-- Refuses a call whose arguments are not two texts with something in them. -/
def checkCall (call : String × List Char) : Except Fault Unit :=
  let arguments := callArguments call.2
  if arguments.length = 2 ∧ ¬ arguments.any isBlankText then .ok ()
  else .error (.badArguments call.1 (arguments.map String.ofList))

/-- Refuses an entry in which some function of two arguments is called otherwise. -/
def checkArguments (entry : List Char) : Except Fault Unit :=
  (pairCalls none entry).forM checkCall

/-! ## All checks -/

/-- The entry to evaluate, after all checks. -/
def validate (entry : List Char) : Except Fault (List Char) := do
  let rest ← strip entry
  checkParentheses rest
  checkArguments rest
  return rest

end DeskCalculator.Entry
