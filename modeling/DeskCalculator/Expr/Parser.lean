import DeskCalculator.Expr.Basic
import DeskCalculator.Token

/-!
# From tokens to a tree

The parser reads the tokens once, from left to right.  What surrounds the
operand that it is reading is a stack of `Pending` entries, innermost first: a
sign or an operation that waits for its right operand, an open group, or an
open call with the arguments it already has.  As every entry keeps the operands
that belong to it, reading can never find one missing.

Binary operators bind in three strengths, `+` and `-` below `*` and `/` below
`**`; the first four group to the left and `**` to the right.  A sign binds more
tightly than any of them, a call most tightly of all.
-/

namespace DeskCalculator.Expr

/-- Something begun that waits for the operand being read. -/
inductive Pending where
  /-- A sign that waits for its operand. -/
  | sign (operator : String)
  /-- An operation that waits for its right operand. -/
  | operation (left : Expr) (operator : String)
  /-- An opening parenthesis. -/
  | group
  /-- A call that is still open, with its arguments so far, the last one first. -/
  | call (callee : Expr) (done : List Expr)

/-- How far the parser has come. -/
structure Progress where
  /-- What surrounds the present operand, innermost first. -/
  pending : List Pending
  /-- The present operand, or `none` where one is due. -/
  operand : Option Expr

/-- How strongly a binary operator binds. -/
def strength (operator : String) : Nat :=
  match operator with
  | "**" => 3
  | "*" | "/" => 2
  | _ => 1

/-- Whether an operand between two operators belongs to the first of them. -/
def bindsLeft (first second : String) : Bool :=
  strength second < strength first || (strength first == strength second && second != "**")

/-- Gives the operand to every sign and operation that waits for it, up to the innermost open
bracket. -/
def close (operand : Expr) : List Pending → Expr × List Pending
  | .sign operator :: rest => close (.sign operator operand) rest
  | .operation left operator :: rest => close (.operation left operator operand) rest
  | rest => (operand, rest)

/-- Gives the operand to the signs and operations that bind it more tightly than the binary
operator `next`, which follows it. -/
def closeBefore (next : String) (operand : Expr) : List Pending → Expr × List Pending
  | .sign operator :: rest => closeBefore next (.sign operator operand) rest
  | .operation left operator :: rest =>
    if bindsLeft operator next then closeBefore next (.operation left operator operand) rest
    else (operand, .operation left operator :: rest)
  | rest => (operand, rest)

/-- The fault of a token that cannot stand where it does. -/
def unexpected (token : Token) : Fault :=
  .unexpectedToken token.text token.position

/-- Reads a token where an operand is due. -/
def beforeOperand (pending : List Pending) (token : Token) : Except Fault Progress :=
  match token.kind with
  | .number => .ok ⟨pending, some (.number token.value)⟩
  | .name => .ok ⟨pending, some (.name token.text)⟩
  | .power | .symbol =>
    match token.text, pending with
    | "(", _ => .ok ⟨.group :: pending, none⟩
    | ")", .call callee [] :: rest => .ok ⟨rest, some (.call callee [])⟩
    | "+", _ | "-", _ => .ok ⟨.sign token.text :: pending, none⟩
    | _, _ => .error (unexpected token)

/-- Reads a token that follows an operand. -/
def afterOperand (pending : List Pending) (operand : Expr) (token : Token) :
    Except Fault Progress :=
  match token.kind with
  | .number | .name => .error (unexpected token)
  | .power | .symbol =>
    match token.text with
    | "(" => .ok ⟨.call operand [] :: pending, none⟩
    | ")" =>
      match close operand pending with
      | (inner, .group :: rest) => .ok ⟨rest, some inner⟩
      | (last, .call callee done :: rest) =>
        .ok ⟨rest, some (.call callee (last :: done).reverse)⟩
      | _ => .error (unexpected token)
    | "," =>
      match close operand pending with
      | (last, .call callee done :: rest) => .ok ⟨.call callee (last :: done) :: rest, none⟩
      | _ => .error (unexpected token)
    | operator =>
      let (left, rest) := closeBefore operator operand pending
      .ok ⟨.operation left operator :: rest, none⟩

/-- Reads one token. -/
def step (progress : Progress) (token : Token) : Except Fault Progress :=
  match progress with
  | ⟨pending, none⟩ => beforeOperand pending token
  | ⟨pending, some operand⟩ => afterOperand pending operand token

/-- The tree that has been read when no token is left. -/
def finish : Progress → Except Fault Expr
  | ⟨_, none⟩ => .error .unexpectedEnd
  | ⟨pending, some operand⟩ =>
    match close operand pending with
    | (tree, []) => .ok tree
    | _ => .error .unclosedBracket

/-- The tree of a list of tokens. -/
def ofTokens (tokens : List Token) : Except Fault Expr := do
  finish (← tokens.foldlM step ⟨[], none⟩)

/-- The tree of a text in canonical notation. -/
def parse (text : String) : Except Fault Expr := do
  ofTokens (← Token.ofText text)

end DeskCalculator.Expr
