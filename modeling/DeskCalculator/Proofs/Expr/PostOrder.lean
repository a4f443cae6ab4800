import DeskCalculator.Proofs.Expr.Totality
import DeskCalculator.Proofs.Grammar.TwoStacks

/-!
# Evaluation in post-order on two bare stacks

The machine keeps with every frame the values that its node already has.  Here
is the same evaluation on two separate stacks, as it is usually given: one of
tasks and one of values.  A node is visited first: it is examined, and its
children are put in front of the task to finish it.  When that task comes up,
the node takes as many values from their stack as it has children and leaves its
own value there.  A node may find too few values, or not the number that it
combines, and then the walk stops with `missing`.

## Strategy

* The recursive meaning of a tree is that of its children between the same two
  steps, `check` and `combine`, whatever the node is (`value_eq`).
* A visit in front of any tasks and above any values puts the value of the tree
  on top and goes on with these tasks (`walk_visit`).  For the children of a node
  that holds of all of them in turn (`walk_visits`).
-/

namespace DeskCalculator.PostOrder

open DeskCalculator.Expr
open TwoStacks (Stop outcome)

/-! ## What a node does -/

/-- The trees from whose values that of a node is combined; the callee of a call has no value. -/
def children : Expr → List Expr
  | .number _ | .name _ => []
  | .sign _ operand => [operand]
  | .operation left _ right => [left, right]
  | .call _ arguments => arguments

/-- What is examined about a node before its children are evaluated. -/
def check : Expr → Except (Stop EvaluationFailure) Unit
  | .call callee arguments => outcome (fun _ => ()) (calledFunction callee arguments.length)
  | _ => .ok ()

/-- Calls a function by its name with all operands. -/
def invoke (text : String) (operands : List Float) : Except (Stop EvaluationFailure) Float :=
  match Function.ofName? text with
  | some f =>
    if operands.length = f.arity then outcome id (Expr.invoke f operands) else .error .missing
  | none => .error .missing

/-- Combines the values of the children of a node. -/
def combine (bindings : Bindings) : Expr → List Float → Except (Stop EvaluationFailure) Float
  | .number v, _ => .ok v
  | .name text, _ => outcome id (lookUp bindings text)
  | .sign operator _, [v] => .ok (applySign operator v)
  | .operation _ operator _, [a, b] => outcome id (Expr.combine operator a b)
  | .call (.name text) _, operands => invoke text operands
  | _, _ => .error .missing

/-! ## The walk -/

/-- What is left to do. -/
inductive Task where
  /-- Examine a node and see to its children. -/
  | visit (e : Expr)
  /-- Combine the values that the children of a node have left. -/
  | finish (e : Expr)

/-- How much work a task holds. -/
noncomputable def Task.weight : Task → Nat
  | visit e => 2 * sizeOf e
  | finish _ => 1

/-- How much work several tasks hold. -/
noncomputable def tasksWeight (tasks : List Task) : Nat :=
  (tasks.map Task.weight).sum

/-- Takes the last `count` values from their stack, which has the last one first. -/
def pop (count : Nat) (stack : List Float) :
    Except (Stop EvaluationFailure) (List Float × List Float) :=
  if count ≤ stack.length then .ok ((stack.take count).reverse, stack.drop count)
  else .error .missing

private theorem tasksWeight_append (first second : List Task) :
    tasksWeight (first ++ second) = tasksWeight first + tasksWeight second := by
  simp [tasksWeight]

private theorem tasksWeight_visits_le (trees : List Expr) :
    tasksWeight (trees.map .visit) ≤ 2 * sizeOf trees := by
  induction trees with
  | nil => simp [tasksWeight]
  | cons e rest ih =>
      simp only [tasksWeight, List.map_cons, List.sum_cons, Task.weight,
        List.cons.sizeOf_spec] at ih ⊢
      omega

/-- Its children and the task to finish it are less work than a node. -/
theorem tasksWeight_children_lt (e : Expr) :
    tasksWeight ((children e).map .visit) + 1 < 2 * sizeOf e := by
  cases e with
  | number v | name text => simp [children, tasksWeight]; omega
  | sign operator operand => simp [children, tasksWeight, Task.weight]; omega
  | operation left operator right => simp [children, tasksWeight, Task.weight]; omega
  | call callee arguments =>
      have hle := tasksWeight_visits_le arguments
      simp only [children, call.sizeOf_spec]
      omega

/-- Carries out the tasks; gives the values that are left in the end, the last one first. -/
def walk (bindings : Bindings) :
    List Task → List Float → Except (Stop EvaluationFailure) (List Float)
  | [], stack => .ok stack
  | .visit e :: tasks, stack => do
    check e
    walk bindings ((children e).map .visit ++ .finish e :: tasks) stack
  | .finish e :: tasks, stack => do
    let (operands, rest) ← pop (children e).length stack
    let v ← combine bindings e operands
    walk bindings tasks (v :: rest)
termination_by tasks => tasksWeight tasks
decreasing_by
  · have hlt := tasksWeight_children_lt e
    simp only [tasksWeight_append]
    simp only [tasksWeight, List.map_cons, List.sum_cons, Task.weight] at hlt ⊢
    omega
  · simp [tasksWeight, Task.weight]

/-! ## The recursive meaning between the same two steps -/

variable {bindings : Bindings}

theorem length_values {trees : List Expr} {vs : List Float}
    (h : values bindings trees = .ok vs) : vs.length = trees.length := by
  induction trees generalizing vs with
  | nil =>
      cases h
      rfl
  | cons e rest ih =>
      rw [values] at h
      obtain ⟨x, -, h⟩ := bind_eq_ok h
      obtain ⟨xs, hxs, h⟩ := bind_eq_ok h
      cases h
      rw [List.length_cons, List.length_cons, ih hxs]

/-- A call of a known function has its name written and as many arguments as it takes, so nothing is
missing when it is carried out. -/
theorem combine_call {callee : Expr} {arguments : List Expr} {f : Function} {vs : List Float}
    (hf : calledFunction callee arguments.length = .ok f) (hvs : vs.length = arguments.length) :
    combine bindings (.call callee arguments) vs = outcome id (Expr.invoke f vs) := by
  obtain ⟨text, rfl, hname, harity⟩ := calledFunction_eq_ok hf
  simp only [combine, invoke, hname]
  rw [if_pos (hvs.trans harity)]

/-- The value of a node: it is examined, its children are evaluated from left to right, and their
values are combined. -/
theorem value_eq (e : Expr) :
    outcome id (value bindings e) = (do
      check e
      let operands ← outcome id (values bindings (children e))
      combine bindings e operands) := by
  cases e with
  | number v => rfl
  | name text => rfl
  | sign operator operand =>
      simp only [check, children, value, values]
      cases value bindings operand with
      | ok v => rfl
      | error fault => rfl
  | operation left operator right =>
      simp only [check, children, value, values]
      cases value bindings left with
      | error fault => rfl
      | ok a =>
          cases value bindings right with
          | ok b => rfl
          | error fault => rfl
  | call callee arguments =>
      simp only [check, children, value]
      cases hf : calledFunction callee arguments.length with
      | error fault => rfl
      | ok f =>
          cases hvs : values bindings arguments with
          | error failure => rfl
          | ok vs => exact (combine_call hf (length_values hvs)).symm

/-! ## The walk follows the meaning -/

/-- What has been left by several nodes can be taken again, the first of them first. -/
theorem pop_reverse_append (vs stack : List Float) :
    pop vs.length (vs.reverse ++ stack) = .ok (vs, stack) := by
  rw [← List.length_reverse, pop, if_pos (by simp), List.take_left, List.drop_left,
    List.reverse_reverse]

/-- Visiting a tree comes down to putting its value on top of the others. -/
def VisitLeavesValue (bindings : Bindings) (e : Expr) : Prop :=
  ∀ tasks stack, walk bindings (.visit e :: tasks) stack =
    (outcome id (value bindings e)).bind fun v => walk bindings tasks (v :: stack)

/-- Visiting several trees puts their values on top, the last one first. -/
theorem walk_visits {trees : List Expr} (h : ∀ e ∈ trees, VisitLeavesValue bindings e)
    (tasks : List Task) (stack : List Float) :
    walk bindings (trees.map .visit ++ tasks) stack =
      (outcome id (values bindings trees)).bind fun vs =>
        walk bindings tasks (vs.reverse ++ stack) := by
  induction trees generalizing stack with
  | nil => rfl
  | cons e rest ih =>
      have hfirst := h e List.mem_cons_self
      have hrest := ih fun other hother => h other (List.mem_cons_of_mem _ hother)
      rw [List.map_cons, List.cons_append, hfirst, values]
      cases value bindings e with
      | error fault => rfl
      | ok v =>
          refine (hrest (v :: stack)).trans ?_
          cases values bindings rest with
          | error fault => rfl
          | ok vs =>
              show walk bindings tasks (vs.reverse ++ v :: stack) =
                walk bindings tasks ((v :: vs).reverse ++ stack)
              rw [List.reverse_cons, List.append_assoc]
              rfl

private theorem sizeOf_lt_of_mem_children {e child : Expr} (h : child ∈ children e) :
    sizeOf child < sizeOf e := by
  cases e with
  | number v | name text => cases h
  | sign operator operand =>
      rw [List.mem_singleton.1 h, sign.sizeOf_spec]
      omega
  | operation left operator right =>
      rw [operation.sizeOf_spec]
      rcases List.mem_pair.1 h with rfl | rfl <;> omega
  | call callee arguments =>
      have hlt := List.sizeOf_lt_of_mem h
      rw [children] at hlt
      rw [call.sizeOf_spec]
      omega

/-- Visiting a tree leaves its value, whatever is left to do and whatever values there are. -/
theorem walk_visit (e : Expr) : VisitLeavesValue bindings e := by
  intro tasks stack
  rw [walk, value_eq]
  cases check e with
  | error stop => rfl
  | ok _ =>
      show walk bindings ((children e).map .visit ++ .finish e :: tasks) stack = _
      rw [walk_visits fun child hchild => walk_visit child]
      cases hvs : values bindings (children e) with
      | error fault => rfl
      | ok vs =>
          -- as many values as children are on top, so the node finds all of them
          show walk bindings (.finish e :: tasks) (vs.reverse ++ stack) =
            (combine bindings e vs).bind _
          rw [walk, ← length_values hvs, pop_reverse_append]
          rfl
termination_by sizeOf e
decreasing_by exact sizeOf_lt_of_mem_children hchild

/-- The value of every tree is what its node combines, once it has been examined, from the values
of its children in their order; the machine gives that value; and the walk on two bare stacks stops
with nothing but it, or with the same fault of the tree; no other failure is possible. -/
theorem walk_computes_value (bindings : Bindings) (e : Expr) :
    (outcome id (value bindings e) = do
      check e
      let operands ← outcome id (values bindings (children e))
      combine bindings e operands) ∧
    evaluate bindings e = value bindings e ∧
    ((∃ v, value bindings e = .ok v ∧ walk bindings [.visit e] [] = .ok [v]) ∨
      ∃ fault, value bindings e = .error (.fault fault) ∧
        walk bindings [.visit e] [] = .error (.fault (.fault fault))) := by
  refine ⟨value_eq e, evaluate_eq_value e, ?_⟩
  rw [walk_visit]
  cases hvalue : value bindings e with
  | ok v =>
      refine .inl ⟨v, rfl, ?_⟩
      show walk bindings [] [v] = _
      rw [walk]
  | error failure =>
      obtain ⟨fault, rfl⟩ := faultsOnly_value bindings e failure hvalue
      exact .inr ⟨fault, rfl, rfl⟩

end DeskCalculator.PostOrder
