import DeskCalculator.Expr.Basic

/-!
# Evaluation without recursion

Trees can be nested more deeply than a recursive evaluation would survive, so
they are evaluated by a machine with a stack of its own.  A `Frame` is a node
that waits for the value of one of its operands and holds the values it already
has.  Since each frame keeps what its node needs, no value is ever missing, and
the machine stops with one value when no frame is left.
-/

namespace DeskCalculator.Expr

/-- A node that waits for the value of an operand. -/
inductive Frame where
  /-- A sign, before its operand. -/
  | sign (operator : String)
  /-- An operation that waits for its left operand. -/
  | left (operator : String) (second : Expr)
  /-- An operation that waits for its right operand. -/
  | right (first : Float) (operator : String)
  /-- A call that has the values `done`, the last one first, and waits for the next. -/
  | argument (f : Function) (done : List Float) (rest : List Expr)

/-- What the machine turns to next. -/
inductive Focus where
  /-- A tree to evaluate. -/
  | visit (e : Expr)
  /-- A value for the topmost frame. -/
  | give (v : Float)

/-- How much work a frame still holds. -/
noncomputable def Frame.weight : Frame → Nat
  | sign _ => 1
  | left _ second => 2 + 3 * sizeOf second
  | right .. => 1
  | argument _ _ rest => 1 + 3 * sizeOf rest

/-- How much work the machine still has. -/
noncomputable def Focus.weight : Focus → Nat
  | visit e => 3 * sizeOf e
  | give _ => 0

/-- How much work a stack of frames still holds. -/
noncomputable def stackWeight : List Frame → Nat
  | [] => 0
  | frame :: frames => frame.weight + stackWeight frames

/-- Runs the machine until no frame is left. -/
def run (bindings : Bindings) : Focus → List Frame → Except EvaluationFailure Float
  | .visit (number v), frames => run bindings (.give v) frames
  | .visit (name text), frames =>
    match lookUp bindings text with
    | .ok v => run bindings (.give v) frames
    | .error failure => .error failure
  | .visit (sign operator operand), frames =>
    run bindings (.visit operand) (.sign operator :: frames)
  | .visit (operation first operator second), frames =>
    run bindings (.visit first) (.left operator second :: frames)
  | .visit (call callee arguments), frames =>
    match calledFunction callee arguments.length with
    | .error failure => .error failure
    | .ok f =>
      match arguments with
      | [] =>
        match invoke f [] with
        | .ok result => run bindings (.give result) frames
        | .error failure => .error failure
      | first :: rest => run bindings (.visit first) (.argument f [] rest :: frames)
  | .give v, [] => .ok v
  | .give v, .sign operator :: frames => run bindings (.give (applySign operator v)) frames
  | .give v, .left operator second :: frames =>
    run bindings (.visit second) (.right v operator :: frames)
  | .give v, .right first operator :: frames =>
    match combine operator first v with
    | .ok result => run bindings (.give result) frames
    | .error failure => .error failure
  | .give v, .argument f done [] :: frames =>
    match invoke f (v :: done).reverse with
    | .ok result => run bindings (.give result) frames
    | .error failure => .error failure
  | .give v, .argument f done (next :: rest) :: frames =>
    run bindings (.visit next) (.argument f (v :: done) rest :: frames)
termination_by focus frames => focus.weight + stackWeight frames
decreasing_by
  all_goals simp only [Focus.weight, Frame.weight, stackWeight, number.sizeOf_spec,
    name.sizeOf_spec, sign.sizeOf_spec, operation.sizeOf_spec, call.sizeOf_spec,
    List.cons.sizeOf_spec, List.nil.sizeOf_spec]
  all_goals omega

/-- The value of a tree. -/
def evaluate (bindings : Bindings) (e : Expr) : Except EvaluationFailure Float :=
  run bindings (.visit e) []

end DeskCalculator.Expr
