import DeskCalculator.Decimal.Reader
import DeskCalculator.Fault
import DeskCalculator.Text.Word

/-!
# Tokens of the canonical notation

The canonical notation is made of numerals, names, the power sign `**` and
single symbols, with blanks anywhere between them.  `Token.scan` takes the
longest token at the start of the text again and again; it never skips anything
but blanks, and the first character that starts no token ends it with a fault.
-/

namespace DeskCalculator

open Text

/-- The kinds of token. -/
inductive TokenKind where
  | number
  | name
  | power
  | symbol
  deriving DecidableEq, Repr

/-- A token with the position, in characters, at which it starts. -/
structure Token where
  /-- What sort of token it is. -/
  kind : TokenKind
  /-- The characters of the token. -/
  text : String
  /-- How many characters precede it. -/
  position : Nat
  deriving DecidableEq, Repr

namespace Token

/-- The characters that are tokens on their own. -/
def symbols : List Char := ['+', '-', '*', '/', '(', ')', ',']

/-- The length of the name at the start of a text: a letter or underscore, then word characters. -/
def nameLength : List Char → Nat
  | [] => 0
  | c :: rest =>
    if isLetter c ∨ c = '_' then 1 + (rest.takeWhile isWord).length else 0

/-- The kind and the length of the token at the start of a text. -/
def leading? (text : List Char) : Option (TokenKind × Nat) :=
  if numeralLength text ≠ 0 then some (.number, numeralLength text)
  else if nameLength text ≠ 0 then some (.name, nameLength text)
  else
    match text with
    | '*' :: '*' :: _ => some (.power, 2)
    | c :: _ => if c ∈ symbols then some (.symbol, 1) else none
    | [] => none

/-- The tokens of a text that starts `position` characters into the whole. -/
def scan (position : Nat) : List Char → Except Fault (List Token)
  | [] => .ok []
  | c :: rest =>
    match leading? (c :: rest) with
    | some (kind, length) => do
      let others ← scan (position + length) (rest.drop (length - 1))
      return ⟨kind, String.ofList ((c :: rest).take length), position⟩ :: others
    | none =>
      if isBlank c then scan (position + 1) rest
      else .error (.unexpectedCharacter c position)
termination_by text => text.length
decreasing_by
  · simp only [List.length_drop, List.length_cons]; omega
  · simp

/-- The tokens of a text. -/
def ofText (text : String) : Except Fault (List Token) :=
  scan 0 text.toList

/-- The float that a numeral token denotes. -/
def value (token : Token) : Float :=
  (Decimal.read token.text.toList).toFloat

end Token

end DeskCalculator
