import DeskCalculator.Decimal.Layout
import DeskCalculator.Text.Quoted

/-!
# What can be wrong with an entry

A `Fault` is one reason why an entry has no value.  Each belongs to a
`FaultKind`, whose label replaces the display, and has a message that says what
exactly was found.
-/

namespace DeskCalculator

/-- The kinds of failure that the display distinguishes. -/
inductive FaultKind where
  | syntaxError
  | malformed
  | mismatchedParentheses
  | invalidFunctionArgs
  | domain
  | invalidEquation
  | solverFailed
  deriving DecidableEq, Repr

namespace FaultKind

/-- Every kind, in the order in which they are listed. -/
def all : List FaultKind :=
  [syntaxError, malformed, mismatchedParentheses, invalidFunctionArgs, domain, invalidEquation,
    solverFailed]

/-- The text that is shown in place of the entry. -/
def label : FaultKind → String
  | syntaxError => "Syntax Error"
  | malformed => "Malformed Expression"
  | mismatchedParentheses => "Mismatched Parentheses"
  | invalidFunctionArgs => "Invalid Function Args"
  | domain => "Domain Error"
  | invalidEquation => "Invalid Equation"
  | solverFailed => "Solver Failed"

/-- The name under which a kind is reported to programs. -/
def name : FaultKind → String
  | syntaxError => "SYNTAX"
  | malformed => "MALFORMED"
  | mismatchedParentheses => "MISMATCHED_PARENTHESES"
  | invalidFunctionArgs => "INVALID_FUNCTION_ARGS"
  | domain => "DOMAIN"
  | invalidEquation => "INVALID_EQUATION"
  | solverFailed => "SOLVER_FAILED"

/-- The kind with a given label. -/
def ofLabel? (text : String) : Option FaultKind :=
  all.find? (·.label == text)

/-- The message of a failure of this kind: its detail, or the label where there is none. -/
def describe (kind : FaultKind) (detail : String) : String :=
  if detail.isEmpty then kind.label else detail

theorem mem_all (kind : FaultKind) : kind ∈ all := by
  cases kind <;> decide

/-- The label tells the kind. -/
theorem ofLabel?_label (kind : FaultKind) : ofLabel? kind.label = some kind := by
  cases kind <;> decide

theorem label_eq_of_ofLabel? {text : String} {kind : FaultKind} (h : ofLabel? text = some kind) :
    kind.label = text := by
  simpa using List.find?_some h

end FaultKind

/-- The forms that a node of an expression tree can have. -/
inductive Form where
  | number
  | name
  | sign
  | operation
  | call
  deriving DecidableEq, Repr

/-- The name of a form in messages. -/
def Form.label : Form → String
  | number => "Num"
  | name => "Name"
  | sign => "Unary"
  | operation => "BinOp"
  | call => "Call"

/-- A reason why an entry has no value. -/
inductive Fault where
  /-- Nothing is left to evaluate. -/
  | emptyExpression
  /-- A character that starts no token. -/
  | unexpectedCharacter (c : Char) (position : Nat)
  /-- A token that cannot stand where it does. -/
  | unexpectedToken (text : String) (position : Nat)
  /-- The expression stops where an operand is due. -/
  | unexpectedEnd
  /-- The expression stops inside a bracket. -/
  | unclosedBracket
  /-- The numbers of opening and closing parentheses differ. -/
  | unbalanced (opening closing : Nat)
  /-- A function of two arguments is called with other or with blank ones. -/
  | badArguments (function : String) (arguments : List String)
  /-- A function is called with the wrong number of arguments. -/
  | wrongCount (function : String) (arity given : Nat)
  /-- A name that stands for no value. -/
  | notAValue (name : String)
  /-- Something other than the name of a function is called. -/
  | notAFunction (form : Form)
  /-- An operator without a meaning. -/
  | unknownOperator (operator : String)
  /-- The entry evaluates to an infinity or to NaN. -/
  | notFinite (entry : String) (value : Float)

namespace Fault

/-- The kind that a fault belongs to. -/
def kind : Fault → FaultKind
  | emptyExpression | unexpectedCharacter .. | unexpectedToken .. | unexpectedEnd
  | unclosedBracket => .syntaxError
  | unbalanced .. => .mismatchedParentheses
  | badArguments .. | wrongCount .. => .invalidFunctionArgs
  | notAValue _ | notAFunction _ | unknownOperator _ => .malformed
  | notFinite .. => .domain

/-- What exactly was found. -/
def message [Platform] : Fault → String
  | emptyExpression => "empty expression"
  | unexpectedCharacter c position =>
    s!"unexpected character {Text.quote c.toString} at {position}"
  | unexpectedToken text position => s!"unexpected token {Text.quote text} at {position}"
  | unexpectedEnd => "unexpected end of expression"
  | unclosedBracket => "expected ')', found end of expression"
  | unbalanced opening closing => s!"{opening} '(' vs {closing} ')'"
  | badArguments function arguments =>
    s!"{function}() takes 2 arguments, got {Text.quoteList arguments}"
  | wrongCount function arity given => s!"{function}() takes {arity} argument(s), got {given}"
  | notAValue name => s!"'{name}' is not a value"
  | notAFunction form => s!"{form.label} is not a function"
  | unknownOperator operator => s!"unknown operator {Text.quote operator}"
  | notFinite entry value => s!"{Text.quote entry} evaluated to {Layout.full.write value}"

end Fault

end DeskCalculator
