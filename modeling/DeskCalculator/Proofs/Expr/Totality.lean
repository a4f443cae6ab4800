import DeskCalculator.Proofs.Expr.Machine
import DeskCalculator.Proofs.Float.Range

/-!
# Every operation has a value

Arithmetic refuses division by zero, functions outside their domain and what is too large.
The operations of an expression are built from it so that none of these refusals gets
through: a guard keeps the operands away from what is refused, or the refusal is answered
for.  So each operation has a value whatever its operands are, NaN and the infinities
among them (`exists_applyAll`, `exists_binaryOperation`), and an evaluation that has no
value stops with a fault of the tree (`faultsOnly_evaluate`).

The guards of the logarithm and of the quotient speak of their operands directly.  An angle in
radians is smaller than in degrees, so it stays finite; and no factor of a factorial is larger
than the number itself, so each of them is a finite float.
-/

namespace DeskCalculator

open Binary

variable {v : Float} {n r : ℕ}

/-! ## Operations on two numbers -/

theorem exists_divide (a b : Float) : ∃ v, divide a b = .ok v := by
  unfold divide
  split
  · split <;> exact ⟨_, rfl⟩
  · next hne => exact ⟨a / b, by rw [Arithmetic.divide, if_neg hne]⟩

/-- A power is refused in two ways at most. -/
private theorem arithmetic_power_cases (a b : Float) :
    (∃ v, Arithmetic.power a b = .ok v) ∨ Arithmetic.power a b = .error .outsideDomain ∨
      Arithmetic.power a b = .error .overflow := by
  unfold Arithmetic.power
  dsimp only
  split_ifs
  · exact .inl ⟨_, rfl⟩
  · exact .inr (.inl rfl)
  · exact .inr (.inr rfl)

/-- Both of them are answered for. -/
theorem exists_power (a b : Float) : ∃ v, power a b = .ok v := by
  unfold power
  rcases arithmetic_power_cases a b with ⟨v, hv⟩ | hrefused | hrefused
  · exact ⟨v, by rw [hv]⟩
  · exact ⟨_, by rw [hrefused]⟩
  · exact ⟨_, by rw [hrefused]⟩

theorem exists_root (degree number : Float) : ∃ v, root degree number = .ok v := by
  obtain ⟨exponent, hexponent⟩ := exists_divide 1.0 degree
  obtain ⟨v, hv⟩ := exists_power number exponent
  exact ⟨v, by rw [root, hexponent]; exact hv⟩

/-! ## Operations on one number -/

theorem exists_logarithm (x : Float) : ∃ v, logarithm x = .ok v := by
  unfold logarithm
  split
  · exact ⟨_, rfl⟩
  next hzero =>
  split
  · exact ⟨_, rfl⟩
  next hkind =>
  have hneg : ¬ (x == 0.0 || x < 0.0) = true := by
    simp only [Bool.or_eq_true, not_or] at hkind ⊢
    exact ⟨hzero, hkind.1⟩
  exact ⟨Float.log10 x, by rw [Arithmetic.logarithm, if_neg hneg]⟩

/-- A degree is less than a radian. -/
private theorem degree_bounds :
    (circleNumber / 180.0).isFinite = true ∧ magnitude (circleNumber / 180.0) ≤ 1 := by
  have hsignificand : significand (circleNumber / 180.0) ≤ 2 ^ 53 := by decide +kernel
  have hscale : scale (circleNumber / 180.0) = -58 := by decide +kernel
  refine ⟨by decide +kernel, ?_⟩
  calc magnitude (circleNumber / 180.0)
      = significand (circleNumber / 180.0) * 2 ^ (-58 : ℤ) := by rw [magnitude, hscale]
    _ ≤ 2 ^ 53 * 2 ^ (-58 : ℤ) := by
        refine mul_le_mul_of_nonneg_right ?_ (by positivity)
        exact_mod_cast hsignificand
    _ ≤ 1 := by norm_num

private theorem isFinite_radians (h : v.isFinite = true) :
    (v * (circleNumber / 180.0)).isFinite = true := by
  obtain ⟨hfinite, hle⟩ := degree_bounds
  refine (isFinite_mul h hfinite).2 ?_
  rw [abs_mul_value]
  exact (mul_le_of_le_one_right (magnitude_nonneg v) hle).trans_lt (magnitude_lt_overflow h)

theorem exists_ofDegrees (f : Float → Float) (x : Float) : ∃ v, ofDegrees f x = .ok v := by
  unfold ofDegrees
  split
  · next hfinite =>
      have hradians := (kind_of_isFinite (isFinite_radians hfinite)).2
      exact ⟨_, by rw [Arithmetic.atAngle, if_neg (Bool.eq_false_iff.1 hradians)]⟩
  · exact ⟨_, rfl⟩

/-! ## Factorials -/

/-- The float of a natural number below the bound is not refused. -/
theorem arithmetic_ofNat (h : n < overflow) : Arithmetic.ofNat n = .ok (Float.ofNat n) := by
  have hinf := (kind_of_isFinite (isFinite_ofNat h)).2
  rw [Arithmetic.ofNat, if_neg (Bool.eq_false_iff.1 hinf)]

theorem arithmetic_whole (h : v.isFinite = true) : Arithmetic.whole v = .ok (wholePart v) := by
  obtain ⟨hnan, hinf⟩ := kind_of_isFinite h
  rw [Arithmetic.whole, hnan, hinf]
  rfl

/-- One more factor, as long as it is below the bound. -/
theorem multiplied_succ {product : Float} {factor : ℕ} (h : factor < overflow) (count : ℕ) :
    multiplied product factor (count + 1) =
      if (product * Float.ofNat factor).isInf then .ok (product * Float.ofNat factor)
      else multiplied (product * Float.ofNat factor) (factor + 1) count := by
  rw [multiplied, arithmetic_ofNat h]
  rfl

theorem exists_multiplied {product : Float} {factor count : ℕ}
    (h : ∀ factor', factor' < factor + count → (factor' : ℚ) < overflow) :
    ∃ v, multiplied product factor count = .ok v := by
  induction count generalizing product factor with
  | zero => exact ⟨product, rfl⟩
  | succ count ih =>
      rw [multiplied_succ (h factor (by omega))]
      split
      · exact ⟨_, rfl⟩
      · exact ih fun factor' hlt => h factor' (by omega)

private theorem isFinite_of_isWhole (h : isWhole v = true) : v.isFinite = true := by
  rw [isWhole, Bool.and_eq_true] at h
  exact h.1

private theorem wholePart_lt_overflow (h : v.isFinite = true) : (wholePart v : ℚ) < overflow := by
  have hfloor : ((wholePart v : ℤ) : ℚ) ≤ magnitude v := by
    rw [wholePart_eq]
    exact Int.floor_le _
  exact (by exact_mod_cast hfloor : (wholePart v : ℚ) ≤ magnitude v).trans_lt
    (magnitude_lt_overflow h)

theorem exists_factorial (x : Float) : ∃ v, factorial x = .ok v := by
  unfold factorial
  split
  · exact ⟨_, rfl⟩
  next hkind =>
  split
  · exact ⟨_, rfl⟩
  · simp only [Bool.or_eq_true, Bool.not_eq_true', not_or, Bool.not_eq_false] at hkind
    have hfinite := isFinite_of_isWhole hkind.2
    rw [arithmetic_whole hfinite]
    refine exists_multiplied fun factor hlt => ?_
    rcases Nat.lt_or_ge factor 2 with hsmall | hlarge
    · exact natCast_lt_overflow (by omega)
    · calc (factor : ℚ) ≤ wholePart x := by exact_mod_cast (by omega : factor ≤ wholePart x)
        _ < overflow := wholePart_lt_overflow hfinite

theorem exists_permutations (n r : Float) : ∃ v, permutations n r = .ok v := by
  unfold permutations
  split
  · obtain ⟨every, hevery⟩ := exists_factorial n
    obtain ⟨rest, hrest⟩ := exists_factorial (n - r)
    rw [hevery, hrest]
    exact exists_divide every rest
  · exact ⟨_, rfl⟩

theorem exists_combinations (n r : Float) : ∃ v, combinations n r = .ok v := by
  unfold combinations
  split
  · obtain ⟨every, hevery⟩ := exists_factorial n
    obtain ⟨chosen, hchosen⟩ := exists_factorial r
    obtain ⟨rest, hrest⟩ := exists_factorial (n - r)
    rw [hevery, hchosen, hrest]
    exact exists_divide every (chosen * rest)
  · exact ⟨_, rfl⟩

/-! ## Functions and operators -/

/-- Every function has a value at every list of arguments. -/
theorem exists_applyAll (f : Function) (arguments : List Float) :
    ∃ v, f.applyAll arguments = .ok v := by
  unfold Function.applyAll
  cases f with
  | sine | cosine | tangent => exact exists_ofDegrees _ _
  | logarithm => exact exists_logarithm _
  | root => exact exists_root _ _
  | permutations => exact exists_permutations _ _
  | combinations => exact exists_combinations _ _
  | factorial => exact exists_factorial _

/-- Every operator with a meaning has a value at all operands. -/
theorem exists_binaryOperation {operator : String}
    {operation : Float → Float → Except ArithmeticError Float}
    (h : binaryOperation? operator = some operation) (a b : Float) :
    ∃ v, operation a b = .ok v := by
  unfold binaryOperation? at h
  split at h <;> cases h
  · exact ⟨_, rfl⟩
  · exact ⟨_, rfl⟩
  · exact ⟨_, rfl⟩
  · exact exists_divide a b
  · exact exists_power a b

/-! ## Evaluations -/

namespace Expr

/-- Whether a computation either has a result or stops with a fault of the tree. -/
def FaultsOnly {α : Type} (computation : Except EvaluationFailure α) : Prop :=
  ∀ failure, computation = .error failure → ∃ fault, failure = .fault fault

variable {α β : Type}

theorem faultsOnly_ok (a : α) : FaultsOnly (.ok a) := nofun

theorem faultsOnly_fault (fault : Fault) :
    FaultsOnly (.error (.fault fault) : Except EvaluationFailure α) :=
  fun _ h => ⟨fault, (Except.error.inj h).symm⟩

theorem FaultsOnly.bind {first : Except EvaluationFailure α}
    {next : α → Except EvaluationFailure β} (h : FaultsOnly first)
    (hnext : ∀ a, FaultsOnly (next a)) : FaultsOnly (first.bind next) := by
  cases first with
  | ok a => exact hnext a
  | error failure => exact fun _ heq => h _ (by cases heq; rfl)

theorem faultsOnly_mapError (outcome : Except Fault α) : FaultsOnly (outcome.mapError .fault) := by
  cases outcome with
  | ok a => exact faultsOnly_ok a
  | error fault => exact faultsOnly_fault fault

theorem faultsOnly_invoke (f : Function) (arguments : List Float) :
    FaultsOnly (invoke f arguments) := by
  obtain ⟨v, hv⟩ := exists_applyAll f arguments
  rw [invoke, hv]
  exact faultsOnly_ok v

theorem faultsOnly_combine (operator : String) (a b : Float) :
    FaultsOnly (combine operator a b) := by
  unfold combine
  cases hoperation : binaryOperation? operator with
  | none => exact faultsOnly_fault _
  | some operation =>
      obtain ⟨v, hv⟩ := exists_binaryOperation hoperation a b
      dsimp only
      rw [hv]
      exact faultsOnly_ok v

theorem faultsOnly_lookUp (bindings : Bindings) (text : String) :
    FaultsOnly (lookUp bindings text) := by
  unfold lookUp
  split
  · exact faultsOnly_ok _
  · exact faultsOnly_fault _

theorem faultsOnly_calledFunction (callee : Expr) (given : ℕ) :
    FaultsOnly (calledFunction callee given) := by
  cases callee with
  | name text =>
      rw [calledFunction]
      split
      · split
        · exact faultsOnly_ok _
        · exact faultsOnly_fault _
      · exact faultsOnly_fault _
  | number | sign | operation | call => exact faultsOnly_fault _

mutual

theorem faultsOnly_value (bindings : Bindings) : ∀ e : Expr, FaultsOnly (value bindings e)
  | number v => by
      rw [value]
      exact faultsOnly_ok v
  | name text => by
      rw [value]
      exact faultsOnly_lookUp bindings text
  | sign operator operand => by
      rw [value]
      exact (faultsOnly_value bindings operand).bind fun v => faultsOnly_ok _
  | operation left operator right => by
      rw [value]
      exact (faultsOnly_value bindings left).bind fun a =>
        (faultsOnly_value bindings right).bind fun b => faultsOnly_combine operator a b
  | call callee arguments => by
      rw [value]
      exact (faultsOnly_calledFunction callee arguments.length).bind fun f =>
        (faultsOnly_values bindings arguments).bind fun vs => faultsOnly_invoke f vs

theorem faultsOnly_values (bindings : Bindings) :
    ∀ trees : List Expr, FaultsOnly (values bindings trees)
  | [] => by
      rw [values]
      exact faultsOnly_ok []
  | e :: rest => by
      rw [values]
      exact (faultsOnly_value bindings e).bind fun v =>
        (faultsOnly_values bindings rest).bind fun vs => faultsOnly_ok _

end

/-- No evaluation breaks down: what stops it is a fault of the tree. -/
theorem faultsOnly_evaluate (bindings : Bindings) (e : Expr) :
    FaultsOnly (evaluate bindings e) := by
  rw [evaluate_eq_value]
  exact faultsOnly_value bindings e

end Expr

end DeskCalculator
