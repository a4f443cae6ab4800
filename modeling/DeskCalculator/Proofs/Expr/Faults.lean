import DeskCalculator.Graph
import DeskCalculator.Proofs.Expr.Totality

/-!
# Faults do not depend on values

Evaluating a tree can fail in three ways: a name has no value, something is called that
is no function or with the wrong number of arguments, and an operator has no meaning.
None of them looks at a float, and the operations on floats have a value everywhere.  So
the fault that stops an evaluation depends on the names that are bound, and not on what
they are bound to (`alike_evaluate`); and a curve that has a value at one has a value in
every column.

## Strategy

Two evaluations of one tree are run side by side.  They are `Alike` if both give a value
or both stop with the same fault; every step of an evaluation keeps that, whatever values
the two have come to.  Where both carry out an operation on their values, it is because
arithmetic refuses neither of them.
-/

namespace DeskCalculator.Expr

/-! ## Computations that fail alike -/

/-- Whether two computations both have a result or both stop with the same fault. -/
inductive Alike {α β : Type} : Except EvaluationFailure α → Except EvaluationFailure β → Prop
  | ok (a : α) (b : β) : Alike (.ok a) (.ok b)
  | error (fault : Fault) : Alike (.error (.fault fault)) (.error (.fault fault))

theorem Alike.bind {α β γ δ : Type} {first : Except EvaluationFailure α}
    {second : Except EvaluationFailure β} {next : α → Except EvaluationFailure γ}
    {next' : β → Except EvaluationFailure δ} (h : Alike first second)
    (hnext : ∀ a b, Alike (next a) (next' b)) : Alike (first.bind next) (second.bind next') := by
  cases h with
  | ok a b => exact hnext a b
  | error fault => exact .error fault

theorem FaultsOnly.alike {α : Type} {computation : Except EvaluationFailure α}
    (h : FaultsOnly computation) : Alike computation computation := by
  cases computation with
  | ok a => exact .ok a a
  | error failure =>
      obtain ⟨fault, rfl⟩ := h failure rfl
      exact .error fault

theorem Alike.eq_error_iff {α β : Type} {first : Except EvaluationFailure α}
    {second : Except EvaluationFailure β} (h : Alike first second) (failure : EvaluationFailure) :
    first = .error failure ↔ second = .error failure := by
  cases h with
  | ok a b => exact ⟨nofun, nofun⟩
  | error found => exact ⟨fun h => by cases h; rfl, fun h => by cases h; rfl⟩

theorem Alike.exists_ok {α β : Type} {first : Except EvaluationFailure α}
    {second : Except EvaluationFailure β} (h : Alike first second) {a : α}
    (hfirst : first = .ok a) : ∃ b, second = .ok b := by
  cases h with
  | ok _ b => exact ⟨b, rfl⟩
  | error fault => cases hfirst

/-! ## Two evaluations side by side -/

/-- Whether two bindings give values to the same names. -/
def SameNames (first second : Bindings) : Prop :=
  ∀ name, name ∈ first.map Prod.fst ↔ name ∈ second.map Prod.fst

variable {first second : Bindings}

private theorem isSome_lookup_iff {bindings : Bindings} {name : String} :
    (bindings.lookup name).isSome ↔ name ∈ bindings.map Prod.fst := by
  rw [List.lookup_isSome_iff, List.mem_map]
  simp only [beq_iff_eq, @eq_comm String name]

private theorem alike_lookUp (h : SameNames first second) (name : String) :
    Alike (lookUp first name) (lookUp second name) := by
  have hsome : (first.lookup name).isSome = (second.lookup name).isSome := by
    rw [Bool.eq_iff_iff, isSome_lookup_iff, isSome_lookup_iff]
    exact h name
  cases hfirst : first.lookup name with
  | none =>
      rw [hfirst] at hsome
      have hnone : second.lookup name = none := Option.not_isSome_iff_eq_none.1 fun hbound => by
        rw [← hsome] at hbound
        cases hbound
      have hsame : lookUp second name = lookUp first name := by rw [lookUp, lookUp, hfirst, hnone]
      rw [hsame]
      exact (faultsOnly_lookUp first name).alike
  | some v =>
      rw [hfirst] at hsome
      obtain ⟨w, hw⟩ := Option.isSome_iff_exists.1 hsome.symm
      rw [lookUp, lookUp, hfirst, hw]
      exact .ok v w

/-- An operator has a meaning whatever its operands are, and then a value. -/
theorem alike_combine (operator : String) (a b c d : Float) :
    Alike (combine operator a b) (combine operator c d) := by
  unfold combine
  cases hoperation : binaryOperation? operator with
  | none => exact .error _
  | some operation =>
      obtain ⟨v, hv⟩ := exists_binaryOperation hoperation a b
      obtain ⟨w, hw⟩ := exists_binaryOperation hoperation c d
      simp only [hv, hw]
      exact .ok v w

private theorem alike_invoke (f : Function) (vs ws : List Float) :
    Alike (invoke f vs) (invoke f ws) := by
  obtain ⟨v, hv⟩ := exists_applyAll f vs
  obtain ⟨w, hw⟩ := exists_applyAll f ws
  rw [invoke, invoke, hv, hw]
  exact .ok v w

mutual

theorem alike_value (h : SameNames first second) :
    ∀ e : Expr, Alike (value first e) (value second e)
  | number v => by
      rw [value, value]
      exact .ok v v
  | name text => by
      rw [value, value]
      exact alike_lookUp h text
  | sign operator operand => by
      rw [value, value]
      exact (alike_value h operand).bind fun v w => .ok _ _
  | operation left operator right => by
      rw [value, value]
      exact (alike_value h left).bind fun a c =>
        (alike_value h right).bind fun b d => alike_combine operator a b c d
  | call callee arguments => by
      rw [value, value]
      -- which function is called depends on the tree alone
      have hcalled := faultsOnly_calledFunction callee arguments.length
      cases hf : calledFunction callee arguments.length with
      | error failure =>
          obtain ⟨fault, rfl⟩ := hcalled failure hf
          exact .error fault
      | ok f => exact (alike_values h arguments).bind fun vs ws => alike_invoke f vs ws

theorem alike_values (h : SameNames first second) :
    ∀ trees : List Expr, Alike (values first trees) (values second trees)
  | [] => by
      rw [values, values]
      exact .ok [] []
  | e :: rest => by
      rw [values, values]
      exact (alike_value h e).bind fun v w =>
        (alike_values h rest).bind fun vs ws => .ok _ _

end

/-- Evaluations of a tree with the same names fail alike. -/
theorem alike_evaluate (h : SameNames first second) (e : Expr) :
    Alike (evaluate first e) (evaluate second e) := by
  rw [evaluate_eq_value, evaluate_eq_value]
  exact alike_value h e

end DeskCalculator.Expr

namespace DeskCalculator.Graph

open Text DeskCalculator.Expr

/-! ## Curves -/

/-- Whether an expression reads as this tree, and the tree has a value at one. -/
structure HasCurve (expression : List Char) (tree : Expr) : Prop where
  not_blank : trim expression ≠ []
  reads : parse (String.ofList (Entry.canonical (trim expression))) = .ok tree
  value : ∃ v, tree.evaluate [("x", 1.0)] = .ok v

theorem curve?_eq_some_iff {expression : List Char} {tree : Expr} :
    curve? expression = .ok (some tree) ↔ HasCurve expression tree := by
  unfold curve?
  simp only [List.isEmpty_iff]
  constructor
  · intro h
    split at h
    · cases h
    next hblank =>
    split at h
    · next parsed hparse =>
        split at h
        · next v hvalue =>
            cases h
            exact ⟨hblank, hparse, v, hvalue⟩
        · cases h
        · cases h
    · cases h
  · rintro ⟨hblank, hreads, v, hvalue⟩
    simp only [if_neg hblank, hreads, hvalue]

/-- Whether there is a curve is found out without a breakdown. -/
theorem exists_curve? (expression : List Char) : ∃ found, curve? expression = .ok found := by
  unfold curve?
  dsimp only
  split
  · exact ⟨none, rfl⟩
  split
  · next tree _ =>
      split
      · exact ⟨_, rfl⟩
      · exact ⟨_, rfl⟩
      · next breakdown hvalue =>
          obtain ⟨fault, hfault⟩ := faultsOnly_evaluate _ tree _ hvalue
          cases hfault
  · exact ⟨none, rfl⟩

theorem hasCurve_variable : HasCurve ['x'] (.name "x") := by
  refine ⟨by decide +kernel, by cbv, 1.0, ?_⟩
  rw [evaluate_eq_value]
  rfl

/-- Every function and every operator has a value at all floats, so an evaluation without a value
stops with a fault of the tree.  Whether and why it does depends only on which names are bound.  So
an expression that has a value at one, and therefore a curve, has a value in every column of any
canvas. -/
theorem faults_ignore_values :
    (∀ (f : Function) (arguments : List Float), ∃ v, f.applyAll arguments = .ok v) ∧
    (∀ operator operation, binaryOperation? operator = some operation →
      ∀ a b, ∃ v, operation a b = .ok v) ∧
    (∀ (e : Expr) (bindings : Bindings) (failure : EvaluationFailure),
      evaluate bindings e = .error failure → ∃ fault, failure = .fault fault) ∧
    (∀ (e : Expr) (first second : Bindings), SameNames first second →
      ∀ failure, evaluate first e = .error failure ↔ evaluate second e = .error failure) ∧
    ∀ (expression : List Char) (tree : Expr), HasCurve expression tree →
      ∀ (canvas : Canvas) (column : Float),
        ∃ y, tree.evaluate [("x", canvas.abscissa column)] = .ok y := by
  refine ⟨exists_applyAll, fun _ _ => exists_binaryOperation,
    fun e bindings => faultsOnly_evaluate bindings e,
    fun e first second h => (alike_evaluate h e).eq_error_iff, ?_⟩
  intro expression tree hcurve canvas column
  obtain ⟨v, hv⟩ := hcurve.value
  have hnames : SameNames [("x", 1.0)] [("x", canvas.abscissa column)] := fun _ => Iff.rfl
  exact (alike_evaluate hnames tree).exists_ok hv

/-- A quotient by zero has a value.  That of the variable by an unbound name stops with the same
fault for both values, and the variable alone has a value in every column. -/
theorem faults_ignore_values_quotient :
    let quotient := Expr.operation (.name "x") "/" (.name "y")
    (∃ v, divide 1.0 0.0 = .ok v) ∧ SameNames [("x", 1.0)] [("x", 0.0)] ∧
      (∃ failure fault, evaluate [("x", 1.0)] quotient = .error failure ∧
        evaluate [("x", 0.0)] quotient = .error failure ∧ failure = .fault fault) ∧
      HasCurve ['x'] (.name "x") ∧
      ∃ y, evaluate [("x", Canvas.default.abscissa 7)] (.name "x") = .ok y := by
  intro quotient
  have hnames : SameNames [("x", 1.0)] [("x", 0.0)] := fun _ => Iff.rfl
  have hfailed : evaluate [("x", 1.0)] quotient = .error (.fault (.notAValue "y")) := by
    rw [evaluate_eq_value]
    rfl
  obtain ⟨-, hoperators, hfaults, halike, hcolumns⟩ := faults_ignore_values
  obtain ⟨fault, hfault⟩ := hfaults _ _ _ hfailed
  exact ⟨hoperators "/" divide rfl 1.0 0.0, hnames,
    ⟨_, fault, hfailed, (halike _ _ _ hnames _).1 hfailed, hfault⟩, hasCurve_variable,
    hcolumns _ _ hasCurve_variable _ _⟩

end DeskCalculator.Graph
