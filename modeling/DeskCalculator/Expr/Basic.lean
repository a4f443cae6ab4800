import DeskCalculator.Expr.Function

/-!
# Expression trees and their meaning

A tree is a number, a name, a signed operand, a binary operation or a call.
Operators are kept as they were written, so a tree may hold one without a
meaning; that is a fault only when the operation is carried out.

`Expr.value` is the meaning of a tree by recursion: first the node itself is
examined, then its operands are evaluated from left to right, then they are
combined.  The first failure on that way is the outcome: a fault of the tree, or
an operation that arithmetic refuses.
-/

namespace DeskCalculator

/-- An expression tree. -/
inductive Expr where
  | number (value : Float)
  | name (text : String)
  | sign (operator : String) (operand : Expr)
  | operation (left : Expr) (operator : String) (right : Expr)
  | call (callee : Expr) (arguments : List Expr)

/-- The names that an evaluation gives values to. -/
abbrev Bindings := List (String × Float)

/-- The names that stand for the same value in every expression. -/
def constants : Bindings := [("PI", circleNumber), ("E", eulerNumber)]

/-- The operation that a binary operator stands for. -/
def binaryOperation? (operator : String) :
    Option (Float → Float → Except ArithmeticError Float) :=
  match operator with
  | "+" => some fun a b => .ok (a + b)
  | "-" => some fun a b => .ok (a - b)
  | "*" => some fun a b => .ok (a * b)
  | "/" => some divide
  | "**" => some power
  | _ => none

/-- The effect of a sign; only a minus has one. -/
def applySign (operator : String) (v : Float) : Float :=
  if operator = "-" then -v else v

namespace Expr

/-- The form of the root of a tree. -/
def form : Expr → Form
  | number _ => .number
  | name _ => .name
  | sign .. => .sign
  | operation .. => .operation
  | call .. => .call

/-- The value of a name: bindings come before constants. -/
def lookUp (bindings : Bindings) (text : String) : Except EvaluationFailure Float :=
  match (bindings.lookup text).or (constants.lookup text) with
  | some v => .ok v
  | none => .error (.fault (.notAValue text))

/-- The result of a binary operator. -/
def combine (operator : String) (a b : Float) : Except EvaluationFailure Float :=
  match binaryOperation? operator with
  | some f => (f a b).mapError .ofArithmetic
  | none => .error (.fault (.unknownOperator operator))

/-- The function that a call with `given` arguments refers to. -/
def calledFunction (callee : Expr) (given : Nat) : Except EvaluationFailure Function :=
  match callee with
  | name text =>
    match Function.ofName? text with
    | some f =>
      if given = f.arity then .ok f else .error (.fault (.wrongCount text f.arity given))
    | none => .error (.fault (.notAFunction .name))
  | other => .error (.fault (.notAFunction other.form))

/-- The result of a call. -/
def invoke (f : Function) (arguments : List Float) : Except EvaluationFailure Float :=
  (f.applyAll arguments).mapError .ofArithmetic

mutual

/-- The value of a tree. -/
def value (bindings : Bindings) : Expr → Except EvaluationFailure Float
  | number v => .ok v
  | name text => lookUp bindings text
  | sign operator operand => do
    let v ← value bindings operand
    return applySign operator v
  | operation left operator right => do
    let a ← value bindings left
    let b ← value bindings right
    combine operator a b
  | call callee arguments => do
    let f ← calledFunction callee arguments.length
    let vs ← values bindings arguments
    invoke f vs

/-- The values of several trees, from left to right. -/
def values (bindings : Bindings) : List Expr → Except EvaluationFailure (List Float)
  | [] => .ok []
  | e :: rest => do
    let v ← value bindings e
    let vs ← values bindings rest
    return v :: vs

end

end Expr

end DeskCalculator
