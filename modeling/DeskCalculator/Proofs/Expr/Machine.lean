import DeskCalculator.Expr.Machine
import Mathlib.Tactic

/-!
# The machine computes the recursive meaning

Running the machine on a tree in front of any frames is the same as computing
the value of the tree by recursion and handing it to the topmost frame
(`run_visit`).  So an evaluation that succeeds has met only calls of known
functions with the right number of arguments (`callsKnown_of_evaluate`).
-/

namespace DeskCalculator.Expr

variable {bindings : Bindings}

/-! ## The machine -/

mutual

/-- The machine turns a tree into its value. -/
theorem run_visit : ∀ (e : Expr) (frames : List Frame),
    run bindings (.visit e) frames = (value bindings e).bind fun v => run bindings (.give v) frames
  | number v, frames => by
      rw [run, value]
      rfl
  | name text, frames => by
      rw [run, value]
      cases lookUp bindings text with
      | ok v => rfl
      | error failure => rfl
  | sign operator operand, frames => by
      rw [run, run_visit operand, value]
      cases value bindings operand with
      | ok v =>
          show run bindings (.give v) (.sign operator :: frames) = _
          rw [run]
          rfl
      | error failure => rfl
  | operation left operator right, frames => by
      rw [run, run_visit left, value]
      cases value bindings left with
      | error failure => rfl
      | ok a =>
          show run bindings (.give a) (.left operator right :: frames) = _
          rw [run, run_visit right]
          show _ = ((value bindings right).bind fun b => combine operator a b).bind _
          cases value bindings right with
          | error failure => rfl
          | ok b =>
              show run bindings (.give b) (.right a operator :: frames) =
                (combine operator a b).bind _
              rw [run]
              cases combine operator a b with
              | ok result => rfl
              | error failure => rfl
  | call callee arguments, frames => by
      rw [run, value]
      cases calledFunction callee arguments.length with
      | error failure => rfl
      | ok f =>
          show _ = ((values bindings arguments).bind (invoke f)).bind _
          cases arguments with
          | nil =>
              rw [values]
              show _ = (invoke f []).bind _
              dsimp only
              cases invoke f [] with
              | ok result => rfl
              | error failure => rfl
          | cons first rest =>
              show run bindings (.visit first) (.argument f [] rest :: frames) = _
              rw [run_visit first, values]
              cases value bindings first with
              | error failure => rfl
              | ok v =>
                  show run bindings (.give v) (.argument f [] rest :: frames) = _
                  rw [run_argument rest f [] v frames]
                  show _ = (((values bindings rest).bind fun vs => .ok (v :: vs)).bind _).bind _
                  cases values bindings rest with
                  | error failure => rfl
                  | ok vs => rfl

/-- The machine collects the values of the arguments that are left. -/
theorem run_argument : ∀ (rest : List Expr) (f : Function) (done : List Float) (v : Float)
    (frames : List Frame),
    run bindings (.give v) (.argument f done rest :: frames) =
      (values bindings rest).bind fun vs =>
        (invoke f ((v :: done).reverse ++ vs)).bind fun result =>
          run bindings (.give result) frames
  | [], f, done, v, frames => by
      rw [run, values]
      show _ = (invoke f ((v :: done).reverse ++ [])).bind _
      rw [List.append_nil]
      cases invoke f (v :: done).reverse with
      | ok result => rfl
      | error failure => rfl
  | next :: rest, f, done, v, frames => by
      rw [run, run_visit next, values]
      cases value bindings next with
      | error failure => rfl
      | ok w =>
          refine (run_argument rest f (v :: done) w frames).trans ?_
          cases values bindings rest with
          | error failure =>
              show Except.error failure = _
              rfl
          | ok vs =>
              show (invoke f ((w :: v :: done).reverse ++ vs)).bind _ =
                (invoke f ((v :: done).reverse ++ w :: vs)).bind _
              rw [List.reverse_cons, List.append_assoc, List.singleton_append]

end

/-- The machine and the recursion agree. -/
theorem evaluate_eq_value (e : Expr) : evaluate bindings e = value bindings e := by
  rw [evaluate, run_visit]
  cases value bindings e with
  | ok v =>
      show run bindings (.give v) [] = _
      rw [run]
  | error failure => rfl

/-! ## What a successful evaluation has met -/

mutual

/-- Whether every call in a tree is one of a known function with as many arguments as it takes. -/
def CallsKnown : Expr → Prop
  | number _ => True
  | name _ => True
  | sign _ operand => CallsKnown operand
  | operation left _ right => CallsKnown left ∧ CallsKnown right
  | call callee arguments =>
    (∃ f, calledFunction callee arguments.length = .ok f) ∧ AllCallsKnown arguments

/-- Whether every call in several trees is. -/
def AllCallsKnown : List Expr → Prop
  | [] => True
  | e :: rest => CallsKnown e ∧ AllCallsKnown rest

end

theorem arity_pos (f : Function) : 0 < f.arity := by
  cases f <;> decide

/-- A function that is called has its name written, and takes that many arguments. -/
theorem calledFunction_eq_ok {callee : Expr} {given : Nat} {f : Function}
    (h : calledFunction callee given = .ok f) :
    ∃ text, callee = name text ∧ Function.ofName? text = some f ∧ given = f.arity := by
  cases callee with
  | name text =>
      rw [calledFunction] at h
      cases hname : Function.ofName? text with
      | none =>
          rw [hname] at h
          cases h
      | some g =>
          rw [hname] at h
          by_cases harity : given = g.arity
          · simp only [if_pos harity, Except.ok.injEq] at h
            subst h
            exact ⟨text, rfl, hname, harity⟩
          · simp only [if_neg harity] at h
            cases h
  | _ => cases h

theorem bind_eq_ok {ε α β : Type} {first : Except ε α} {next : α → Except ε β} {result : β}
    (h : first.bind next = .ok result) : ∃ x, first = .ok x ∧ next x = .ok result := by
  cases first with
  | error failure => cases h
  | ok x => exact ⟨x, rfl, h⟩

theorem mapError_eq_ok {ε ε' α : Type} {f : ε → ε'} {outcome : Except ε α} {result : α}
    (h : outcome.mapError f = .ok result) : outcome = .ok result := by
  cases outcome with
  | error failure => cases h
  | ok x =>
      cases h
      rfl

mutual

theorem callsKnown_of_value : ∀ {e : Expr} {v : Float}, value bindings e = .ok v → CallsKnown e
  | number _, _, _ => trivial
  | name _, _, _ => trivial
  | sign operator operand, v, h => by
      rw [value] at h
      obtain ⟨x, hx, -⟩ := bind_eq_ok h
      have hoperand : CallsKnown operand := callsKnown_of_value hx
      exact hoperand
  | operation left operator right, v, h => by
      rw [value] at h
      obtain ⟨a, ha, h⟩ := bind_eq_ok h
      obtain ⟨b, hb, -⟩ := bind_eq_ok h
      exact ⟨callsKnown_of_value ha, callsKnown_of_value hb⟩
  | call callee arguments, v, h => by
      rw [value] at h
      obtain ⟨f, hf, h⟩ := bind_eq_ok h
      obtain ⟨vs, hvs, -⟩ := bind_eq_ok h
      exact ⟨⟨f, hf⟩, allCallsKnown_of_values hvs⟩

theorem allCallsKnown_of_values : ∀ {trees : List Expr} {vs : List Float},
    values bindings trees = .ok vs → AllCallsKnown trees
  | [], _, _ => trivial
  | e :: rest, vs, h => by
      rw [values] at h
      obtain ⟨x, hx, h⟩ := bind_eq_ok h
      obtain ⟨xs, hxs, -⟩ := bind_eq_ok h
      exact ⟨callsKnown_of_value hx, allCallsKnown_of_values hxs⟩

end

/-- An evaluation that succeeds has called known functions only. -/
theorem callsKnown_of_evaluate {e : Expr} {v : Float} (h : evaluate bindings e = .ok v) :
    CallsKnown e := by
  rw [evaluate_eq_value] at h
  exact callsKnown_of_value h

end DeskCalculator.Expr
