import DeskCalculator.Expr.Basic
import DeskCalculator.Proofs.Surface.Word

/-!
# Surface trees and their documented meaning

A surface tree is an expression as a person writes it, with percentages,
factorial signs and the signs of the two constants.  `Tree.text` prints it
without blanks and with the parentheses that precedence requires;
`Tree.meaning` is the tree that the documentation assigns to it.

Two of the signs look at the text around them.  A percentage directly behind a
plain literal and a binary `+` or `-` is that part of the literal, and a
factorial takes a unary `-` directly before its literal with it.  What stands
directly before a tree in the text is therefore handed down to its leftmost
operand.
-/

namespace DeskCalculator.Surface

/-- A binary operator. -/
inductive Operator where
  | sign (s : Sign)
  | product
  | quotient
  | power
  deriving DecidableEq

/-- A surface tree. -/
inductive Tree where
  | literal (n : Literal)
  | percentage (n : Literal)
  | factorial (n : Literal)
  | circle
  | euler
  | name (n : Name)
  | sign (s : Sign) (operand : Tree)
  | operation (left : Tree) (operator : Operator) (right : Tree)
  | group (inner : Tree)
  | call (callee : Tree) (arguments : List Tree)

/-! ## Printing -/

/-- How an operator is typed. -/
def Operator.mark : Operator → Mark
  | sign s => .sign s
  | product => .star
  | quotient => .slash
  | power => .caret

/-- How strongly an operator binds; signs bind with strength four, and all else with five. -/
def Operator.level : Operator → Nat
  | sign _ => 1
  | product | quotient => 2
  | power => 3

/-- The least strength of a left operand that needs no parentheses. -/
def Operator.leftLevel : Operator → Nat
  | sign _ => 1
  | product | quotient => 2
  | power => 4

/-- The least strength of a right operand that needs no parentheses. -/
def Operator.rightLevel : Operator → Nat
  | sign _ => 2
  | product | quotient | power => 3

theorem Operator.leftLevel_le (operator : Operator) : operator.leftLevel ≤ 5 := by
  cases operator <;> simp [leftLevel]

theorem Operator.rightLevel_le (operator : Operator) : operator.rightLevel ≤ 5 := by
  cases operator <;> simp [rightLevel]

namespace Tree

/-- How strongly the root of a tree binds. -/
def level : Tree → Nat
  | operation _ operator _ => operator.level
  | sign .. => 4
  | _ => 5

/-- The tree, in parentheses unless it binds at least this strongly. -/
def within (least : Nat) (t : Tree) : Tree :=
  if t.level < least then group t else t

mutual

/-- The tree with the parentheses that precedence requires. -/
def bracketed : Tree → Tree
  | sign s operand => sign s (operand.bracketed.within 4)
  | operation left operator right =>
    operation (left.bracketed.within operator.leftLevel) operator
      (right.bracketed.within operator.rightLevel)
  | group inner => group inner.bracketed
  | call callee arguments => call (callee.bracketed.within 5) (bracketedAll arguments)
  | literal n => literal n
  | percentage n => percentage n
  | factorial n => factorial n
  | circle => circle
  | euler => euler
  | name n => name n

/-- Several trees with their parentheses. -/
def bracketedAll : List Tree → List Tree
  | [] => []
  | t :: rest => t.bracketed :: bracketedAll rest

end

/-- Rows of words with commas between them. -/
def separated (rows : List (List Word)) : List Word :=
  [Word.mark .comma].intercalate rows

mutual

/-- The words of a tree, with parentheses for its groups and calls only. -/
def words : Tree → List Word
  | literal n => [.literal n]
  | percentage n => [.percentage n]
  | factorial n => [.factorial n]
  | circle => [.circle]
  | euler => [.euler]
  | name n => [.name n]
  | sign s operand => .mark (.sign s) :: operand.words
  | operation left operator right => left.words ++ .mark operator.mark :: right.words
  | group inner => .mark .opening :: (inner.words ++ [.mark .closing])
  | call callee arguments =>
    callee.words ++ .mark .opening :: (separated (wordsOfAll arguments) ++ [.mark .closing])

/-- The words of several trees. -/
def wordsOfAll : List Tree → List (List Word)
  | [] => []
  | t :: rest => t.words :: wordsOfAll rest

end

/-- The text of a tree. -/
def text (t : Tree) : List Char := Surface.text t.bracketed.words

/-! ## Meaning -/

/-- The literal at the very end of the text of a tree. -/
def trailing? : Tree → Option Literal
  | literal n => some n
  | sign _ operand => operand.trailing?
  | operation _ _ right => right.trailing?
  | _ => none

/-- Whether the text of a tree begins with a factorial. -/
def beginsWithFactorial : Tree → Bool
  | factorial _ => true
  | operation left _ _ => left.beginsWithFactorial
  | call callee _ => callee.beginsWithFactorial
  | _ => false

/-- The literal that a percentage directly behind an operator is a part of. -/
def base? (left : Tree) : Operator → Option Literal
  | .sign _ => left.trailing?
  | _ => none

end Tree

/-- The name of a sign in expression trees. -/
def Sign.symbol : Sign → String
  | plus => "+"
  | minus => "-"

/-- The name of an operator in expression trees. -/
def Operator.symbol : Operator → String
  | sign s => s.symbol
  | product => "*"
  | quotient => "/"
  | power => "**"

/-- The meaning of a percentage, which may be a part of a base. -/
def percentageMeaning (base : Option Literal) (share : Literal) : Expr :=
  match base with
  | some whole =>
    .operation (.operation (.number whole.value) "*" (.number share.value)) "/"
      (.number Literal.hundred.value)
  | none => .operation (.number share.value) "/" (.number Literal.hundred.value)

/-- The meaning of a factorial, which may have taken a minus with it. -/
def factorialMeaning (negated : Bool) (n : Literal) : Expr :=
  .call (.name "factorial") [if negated then .sign "-" (.number n.value) else .number n.value]

namespace Tree

mutual

/-- The meaning of a tree with the parentheses that it needs.  If a base is given, that literal and
a binary `+` or `-` stand directly before the tree; if it is `negated`, a unary `-` does, and the
factorial at its start takes that sign with it. -/
def meaningBehind (base : Option Literal) (negated : Bool) : Tree → Expr
  | literal n => .number n.value
  | percentage n => percentageMeaning base n
  | factorial n => factorialMeaning negated n
  | circle => .name "PI"
  | euler => .name "E"
  | name n => .name (String.ofList n.letters)
  | sign s operand =>
    if s = .minus ∧ operand.beginsWithFactorial then operand.meaningBehind none true
    else .sign s.symbol (operand.meaningBehind none false)
  | operation left operator right =>
    .operation (left.meaningBehind base negated) operator.symbol
      (right.meaningBehind (left.base? operator) false)
  | group inner => inner.meaningBehind none false
  | call callee arguments => .call (callee.meaningBehind base negated) (meanings arguments)

/-- The meanings of the arguments of a call. -/
def meanings : List Tree → List Expr
  | [] => []
  | t :: rest => t.meaningBehind none false :: meanings rest

end

/-- The documented meaning of a tree. -/
def meaning (t : Tree) : Expr := t.bracketed.meaningBehind none false

end Tree

end DeskCalculator.Surface
