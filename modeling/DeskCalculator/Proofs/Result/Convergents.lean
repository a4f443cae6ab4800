import DeskCalculator.Proofs.Float.Range
import DeskCalculator.Result.Fraction

/-!
# Convergents

The expansion of a value into a continued fraction takes one term after another, and each
term gives a convergent.  This file says what one term does (`Convergents.next`), when the
expansion goes on behind it (`GoesOn`), and what holds of every state that an expansion
reaches (`Reached`), whatever rounding does to the remainders.

## Strategy

What is known of the states is proved by induction on `Reached`.

* `determinant` is `1` or `-1`, so every convergent is in lowest terms
  (`Reached.coprime_next`).
* A remainder is the reciprocal of a fractional part, rounded, so it is not below 1 from the
  second one on (`Reached.one_le_remainder`), and the denominators grow at least like the
  Fibonacci numbers (`Reached.fib_le`).  Hence no expansion takes more than 21 terms
  (`Reached.terms_le`).
-/

namespace DeskCalculator.Convergents

open Binary

variable {target : Float} {state last : Convergents} {terms count numerator denominator : ℕ}
  {x : ℚ}

/-! ## One term -/

/-- The state behind the next term. -/
def next (state : Convergents) : Convergents where
  numerator := wholePart state.remainder * state.numerator + state.previousNumerator
  previousNumerator := state.numerator
  denominator := wholePart state.remainder * state.denominator + state.previousDenominator
  previousDenominator := state.denominator
  remainder := 1.0 / (state.remainder - Float.ofNat (wholePart state.remainder))

/-- Whether a fraction is within the tolerance of the target. -/
def IsClose (target : Float) (numerator denominator : ℕ) : Prop :=
  (target - nearestQuotient numerator denominator).abs ≤ target * fractionTolerance

/-- Whether the expansion goes on behind the next term. -/
structure GoesOn (target : Float) (state : Convergents) : Prop where
  isFinite : state.remainder.isFinite = true
  not_isClose : ¬ IsClose target state.next.numerator state.next.denominator
  denominator_le : state.next.denominator ≤ fractionDenominator
  not_isWhole : isWhole state.remainder = false

/-- An infinite remainder has no next term. -/
theorem step_of_not_isFinite (h : state.remainder.isFinite = false) :
    step target state = .infinite := if_pos (by rw [h]; rfl)

/-- The expansion goes on with the next state. -/
theorem step_of_goesOn (h : GoesOn target state) : step target state = .unfinished state.next := by
  have hends : (decide (fractionDenominator < state.next.denominator) ||
      isWhole state.remainder) = false := by
    rw [h.not_isWhole, Bool.or_false, decide_eq_false_iff_not, not_lt]
    exact h.denominator_le
  unfold step
  rw [h.isFinite]
  exact (if_neg h.not_isClose).trans (if_neg (Bool.not_eq_true _ ▸ hends))

/-- Or it ends with the next convergent. -/
theorem step_of_not_goesOn (hfinite : state.remainder.isFinite = true)
    (h : ¬ GoesOn target state) :
    step target state = .found state.next.numerator state.next.denominator := by
  unfold step
  rw [hfinite]
  by_cases hclose : IsClose target state.next.numerator state.next.denominator
  · exact if_pos hclose
  · refine (if_neg hclose).trans (if_pos ?_)
    rw [Bool.or_eq_true, decide_eq_true_eq]
    by_contra hends
    rw [not_or, not_lt, Bool.not_eq_true] at hends
    exact h ⟨hfinite, hclose, hends.1, hends.2⟩

/-- What one term does. -/
theorem step_cases (target : Float) (state : Convergents) :
    (state.remainder.isFinite = false ∧ step target state = .infinite) ∨
    (GoesOn target state ∧ step target state = .unfinished state.next) ∨
    (state.remainder.isFinite = true ∧ ¬ GoesOn target state ∧
      step target state = .found state.next.numerator state.next.denominator) := by
  by_cases hgoes : GoesOn target state
  · exact .inr (.inl ⟨hgoes, step_of_goesOn hgoes⟩)
  · cases hfinite : state.remainder.isFinite with
    | false => exact .inl ⟨rfl, step_of_not_isFinite hfinite⟩
    | true => exact .inr (.inr ⟨rfl, hgoes, step_of_not_goesOn hfinite hgoes⟩)

/-! ## All terms -/

/-- Whether an expansion of the target comes to a state after so many terms. -/
inductive Reached (target : Float) : ℕ → Convergents → Prop
  | start : Reached target 0 (start target)
  | next {terms : ℕ} {state : Convergents} (hreached : Reached target terms state)
      (hgoes : GoesOn target state) : Reached target (terms + 1) state.next

theorem expand_succ (target : Float) (count : ℕ) (state : Convergents) :
    expand target (count + 1) state =
      match step target state with
      | .unfinished next => expand target count next
      | ended => ended := rfl

/-- How an expansion ends, in terms of the last state that it reaches. -/
theorem Reached.expand_cases (h : Reached target terms state) (count : ℕ) :
    (∃ terms last, Reached target terms last ∧ last.remainder.isFinite = false ∧
      expand target count state = .infinite) ∨
    (∃ terms last, Reached target terms last ∧ last.remainder.isFinite = true ∧
      ¬ GoesOn target last ∧
      expand target count state = .found last.next.numerator last.next.denominator) ∨
    ∃ last, Reached target (terms + count) last ∧
      expand target count state = .unfinished last := by
  induction count generalizing terms state with
  | zero => exact .inr (.inr ⟨state, h, rfl⟩)
  | succ count ih =>
      rw [expand_succ]
      rcases step_cases target state with ⟨hinfinite, hstep⟩ | ⟨hgoes, hstep⟩ |
        ⟨hfinite, hends, hstep⟩ <;> rw [hstep]
      · exact .inl ⟨terms, state, h, hinfinite, rfl⟩
      · have hrest := ih (h.next hgoes)
        rwa [add_assoc, add_comm 1] at hrest
      · exact .inr (.inl ⟨terms, state, h, hfinite, hends, rfl⟩)

/-! ## Lowest terms -/

/-- How two successive convergents differ, times both denominators. -/
def determinant (state : Convergents) : ℤ :=
  state.numerator * state.previousDenominator - state.previousNumerator * state.denominator

theorem determinant_next (state : Convergents) : state.next.determinant = -state.determinant := by
  unfold determinant next
  push_cast
  ring

theorem Reached.determinant_eq (h : Reached target terms state) :
    state.determinant = (-1) ^ terms := by
  induction h with
  | start => rfl
  | next hreached hgoes ih => rw [determinant_next, ih, pow_succ, mul_neg_one]

/-- Every convergent is in lowest terms. -/
theorem Reached.coprime_next (h : Reached target terms state) :
    state.next.numerator.Coprime state.next.denominator := by
  have hdeterminant := state.determinant_next
  rw [h.determinant_eq, determinant] at hdeterminant
  rw [← Nat.isCoprime_iff_coprime]
  rcases neg_one_pow_eq_or ℤ terms with hsign | hsign <;> rw [hsign] at hdeterminant
  · exact ⟨-state.next.previousDenominator, state.next.previousNumerator, by linarith⟩
  · exact ⟨state.next.previousDenominator, -state.next.previousNumerator, by linarith⟩

/-! ## Remainders -/

/-- Where the expansion goes on, the remainder has a fractional part. -/
theorem GoesOn.fract_pos (h : GoesOn target state) : 0 < Int.fract (magnitude state.remainder) :=
  (Int.fract_nonneg _).lt_of_ne' fun hzero =>
    Bool.eq_false_iff.1 h.not_isWhole ((isWhole_iff h.isFinite).2 hzero)

/-- The next remainder is the reciprocal of the fractional part, rounded. -/
theorem remainder_next (h : Denotes state.remainder x) (hfract : Int.fract x ≠ 0) :
    state.next.remainder = nearestFloat (1 / Int.fract x) :=
  denotes_one.div (h.sub_wholePart hfract)

/-- From the second one on, no remainder is below 1. -/
theorem Reached.denotes_remainder (h : Reached target terms state) (hx : Denotes target x)
    (hfinite : state.remainder.isFinite = true) :
    Denotes state.remainder (magnitude state.remainder) ∧
      (terms ≠ 0 → 1 ≤ magnitude state.remainder) := by
  induction h with
  | start =>
      refine ⟨?_, fun hne => absurd rfl hne⟩
      show Denotes target (magnitude target)
      rwa [hx.magnitude_eq]
  | @next terms state hreached hgoes ih =>
      have hdenotes := (ih hgoes.isFinite).1
      have hpos := hgoes.fract_pos
      have hone : 1 ≤ 1 / Int.fract (magnitude state.remainder) :=
        one_le_one_div hpos (Int.fract_lt_one _).le
      have hnearest : 1 ≤ nearest (1 / Int.fract (magnitude state.remainder)) :=
        IsBinary.le_nearest ⟨1, 0, by norm_num, by norm_num, by norm_num⟩ one_pos hone
      rw [remainder_next hdenotes hpos.ne'] at hfinite ⊢
      have hlt := (isFinite_pack_rounded (by positivity) .positive).1 hfinite
      have hnext := denotes_nearestFloat (by positivity) (by positivity)
        ((nearest_lt_iff (by positivity)).2 hlt)
      rw [hnext.magnitude_eq]
      exact ⟨hnext, fun _ => hnearest⟩

theorem Reached.one_le_wholePart (h : Reached target terms state) (hx : Denotes target x)
    (hfinite : state.remainder.isFinite = true) (hterms : terms ≠ 0) :
    1 ≤ wholePart state.remainder := by
  have hone := (h.denotes_remainder hx hfinite).2 hterms
  have hfloor : (1 : ℤ) ≤ ⌊magnitude state.remainder⌋ := Int.le_floor.2 (by exact_mod_cast hone)
  rw [← wholePart_eq] at hfloor
  exact_mod_cast hfloor

/-! ## Growth -/

/-- From the second one on, every convergent adds up the two before it at least. -/
theorem Reached.le_next (h : Reached target terms state) (hx : Denotes target x)
    (hfinite : state.remainder.isFinite = true) (hterms : terms ≠ 0) :
    state.numerator + state.previousNumerator ≤ state.next.numerator ∧
      state.denominator + state.previousDenominator ≤ state.next.denominator := by
  have hpart := h.one_le_wholePart hx hfinite hterms
  exact ⟨Nat.add_le_add_right (Nat.le_mul_of_pos_left _ hpart) _,
    Nat.add_le_add_right (Nat.le_mul_of_pos_left _ hpart) _⟩

/-- Denominators grow at least like the Fibonacci numbers if the two before them do. -/
theorem Reached.fib_le_next (h : Reached target terms state) (hx : Denotes target x)
    (hfinite : state.remainder.isFinite = true)
    (hfib : Nat.fib (terms + 1) ≤ state.denominator + state.previousDenominator) :
    Nat.fib (terms + 1) ≤ state.next.denominator := by
  rcases Nat.eq_zero_or_pos terms with rfl | hpos
  · cases h
    exact Nat.le_add_left _ _
  · exact hfib.trans (h.le_next hx hfinite hpos.ne').2

theorem Reached.fib_le (h : Reached target terms state) (hx : Denotes target x) :
    Nat.fib terms ≤ state.denominator ∧
      Nat.fib (terms + 1) ≤ state.denominator + state.previousDenominator := by
  induction h with
  | start => exact ⟨le_rfl, le_rfl⟩
  | @next terms state hreached hgoes ih =>
      have hnext := hreached.fib_le_next hx hgoes.isFinite ih.2
      refine ⟨hnext, ?_⟩
      show Nat.fib (terms + 2) ≤ state.next.denominator + state.denominator
      rw [Nat.fib_add_two, add_comm]
      exact Nat.add_le_add hnext ih.1

/-- Denominators are positive. -/
theorem Reached.denominator_next_pos (h : Reached target terms state) (hx : Denotes target x)
    (hfinite : state.remainder.isFinite = true) : 0 < state.next.denominator :=
  (Nat.fib_pos.2 (Nat.succ_pos terms)).trans_le (h.fib_le_next hx hfinite (h.fib_le hx).2)

/-- No expansion goes on after 20 terms: the next denominator is too large. -/
theorem Reached.terms_le (h : Reached target terms state) (hx : Denotes target x) : terms ≤ 20 := by
  have hfib := (h.fib_le hx).1
  cases h with
  | start => exact Nat.zero_le 20
  | @next terms state hreached hgoes =>
      by_contra hterms
      have hlarge : Nat.fib 21 ≤ fractionDenominator :=
        (Nat.fib_mono (not_le.1 hterms)).trans (hfib.trans hgoes.denominator_le)
      exact absurd hlarge (by decide)

theorem Reached.numerators_pos (h : Reached target terms state) :
    0 < state.numerator + state.previousNumerator := by
  induction h with
  | start => exact one_pos
  | next hreached hgoes ih =>
      refine ih.trans_le ?_
      rw [add_comm]
      exact Nat.add_le_add_right (Nat.le_add_left _ _) _

/-! ## Closeness -/

/-- The tolerance as a number. -/
def tolerance : ℚ := nearest (10 ^ (-9 : ℤ))

/-- The tolerance is a billionth, rounded. -/
theorem abs_tolerance_sub_le : 2 ^ 53 * |tolerance - 10 ^ (-9 : ℤ)| ≤ 10 ^ (-9 : ℤ) := by
  refine mul_abs_nearest_sub_le ?_
  calc (2 : ℚ) ^ (-1022 : ℤ) ≤ 2 ^ (-30 : ℤ) := zpow_le_zpow_right₀ (by norm_num) (by norm_num)
    _ ≤ 10 ^ (-9 : ℤ) := by norm_num

theorem tolerance_bounds : 0 < tolerance ∧ tolerance < 1 / 2 := by
  have hclose := abs_tolerance_sub_le
  have hlow := neg_abs_le (tolerance - 10 ^ (-9 : ℤ))
  have hhigh := le_abs_self (tolerance - 10 ^ (-9 : ℤ))
  have hbillionth : (10 : ℚ) ^ (-9 : ℤ) = 1 / 10 ^ 9 := by norm_num
  rw [hbillionth] at hclose hlow hhigh
  constructor <;> linarith

private theorem denotes_fractionTolerance : Denotes fractionTolerance tolerance := by
  have hscientific : fractionTolerance = nearestFloat (10 ^ (-9 : ℤ)) := by
    have heq := ofScientific_eq one_pos true 9
    rwa [Nat.cast_one, one_mul] at heq
  obtain ⟨hpos, hlt⟩ := tolerance_bounds
  rw [hscientific]
  exact denotes_nearestFloat (by positivity) hpos
    (hlt.trans (lt_of_lt_of_le (by norm_num) (one_le_zpow₀ (by norm_num) (by norm_num))))

/-- A quotient of natural numbers is the exact one, rounded. -/
theorem nearestQuotient_eq (hnumerator : 0 < numerator) (hpos : 0 < denominator) :
    nearestQuotient numerator denominator = nearestFloat (numerator / denominator) := by
  have hdiv := div_eq hnumerator hpos 0 0
  rw [zpow_zero, mul_one, mul_one] at hdiv
  rw [nearestQuotient, dif_pos hnumerator, dif_pos hpos, hdiv]
  rfl

theorem value_nearestQuotient (hpos : 0 < denominator)
    (hlt : (numerator / denominator : ℚ) < overflow) :
    (nearestQuotient numerator denominator).isFinite = true ∧
      value (nearestQuotient numerator denominator) = nearest (numerator / denominator) := by
  rcases Nat.eq_zero_or_pos numerator with rfl | hnumerator
  · rw [Nat.cast_zero, zero_div, nearest_zero]
    exact ⟨isNearest_zero.isFinite, value_zero⟩
  · rw [nearestQuotient_eq hnumerator hpos]
    exact ⟨(isFinite_pack_rounded (by positivity) .positive).2 hlt,
      value_nearestFloat (by positivity) hlt⟩

/-- The right side of the test for closeness. -/
theorem tolerated (hx : Denotes target x) :
    (target * fractionTolerance).isFinite = true ∧
      value (target * fractionTolerance) = nearest (x * tolerance) := by
  obtain ⟨htolerance, hhalf⟩ := tolerance_bounds
  have hbound : x < overflow := by
    rw [← hx.magnitude_eq]
    exact magnitude_lt_overflow hx.isFinite
  have hnonneg : 0 ≤ x * tolerance := mul_nonneg hx.pos.le htolerance.le
  have hproduct : x * tolerance < overflow := by nlinarith [hx.pos]
  rw [hx.mul denotes_fractionTolerance]
  exact ⟨(isFinite_pack_rounded hnonneg .positive).2 hproduct, value_nearestFloat hnonneg hproduct⟩

/-- A quotient that is too large is close to nothing. -/
theorem lt_overflow_of_isClose (hx : Denotes target x) (hpos : 0 < denominator)
    (h : IsClose target numerator denominator) : (numerator / denominator : ℚ) < overflow := by
  by_contra hlarge
  rw [not_lt] at hlarge
  have hnumerator : 0 < numerator := by
    refine Nat.pos_of_ne_zero ?_
    rintro rfl
    rw [Nat.cast_zero, zero_div] at hlarge
    exact absurd overflow_pos (not_lt.2 hlarge)
  have hfinite := isFinite_of_abs_le (tolerated hx).1 h
  rw [nearestQuotient_eq hnumerator hpos, nearestFloat_eq_infinity_of_le hlarge,
    isFinite_sub_of_not_isFinite hx.isFinite rfl] at hfinite
  cases hfinite

/-- The test for closeness, in terms of the numbers. -/
theorem isClose_iff (hx : Denotes target x) (hpos : 0 < denominator)
    (hlt : (numerator / denominator : ℚ) < overflow) :
    IsClose target numerator denominator ↔
      nearest |x - nearest (numerator / denominator)| ≤ nearest (x * tolerance) := by
  obtain ⟨hfinite, hvalue⟩ := value_nearestQuotient hpos hlt
  obtain ⟨hmul, htolerated⟩ := tolerated hx
  have hbound : x < overflow := by
    rw [← hx.magnitude_eq]
    exact magnitude_lt_overflow hx.isFinite
  have hdistance : |value target - value (nearestQuotient numerator denominator)| < overflow := by
    have hquotient : nearest (numerator / denominator : ℚ) < overflow := by
      rw [← hvalue]
      exact (le_abs_self _).trans_lt ((abs_value _).trans_lt (magnitude_lt_overflow hfinite))
    rw [hx.value_eq, hvalue]
    exact abs_sub_lt_of_nonneg_of_lt hx.pos.le hbound (nearest_nonneg (by positivity)) hquotient
  have hsub := (isFinite_sub hx.isFinite hfinite).2 hdistance
  unfold IsClose
  rw [Binary.le_iff (by rwa [isFinite_abs]) hmul, value_abs hsub,
    magnitude_sub hx.isFinite hfinite hdistance, hx.value_eq, hvalue, htolerated]

/-- Zero is close to nothing else. -/
theorem not_isClose_zero (hx : Denotes target x) : ¬ IsClose target 0 1 := by
  have hpos := hx.pos
  obtain ⟨htolerance, hhalf⟩ := tolerance_bounds
  rw [isClose_iff hx one_pos (by simpa using overflow_pos), Nat.cast_zero, zero_div, nearest_zero,
    sub_zero, abs_of_pos hpos, nearest_of_isBinary hx.isBinary, not_le]
  calc nearest (x * tolerance) ≤ 2 * (x * tolerance) := nearest_le_two_mul (by positivity)
    _ < x := by nlinarith

/-- The fraction that an expansion ends with is not zero. -/
theorem Reached.numerator_next_pos (h : Reached target terms state) (hx : Denotes target x)
    (hfinite : state.remainder.isFinite = true) (hwhole : isWhole target = false)
    (hends : ¬ GoesOn target state) : 0 < state.next.numerator := by
  rcases Nat.eq_zero_or_pos terms with rfl | hpos
  · cases h
    by_contra hzero
    have hnumerator : (Convergents.start target).next.numerator = 0 := Nat.eq_zero_of_not_pos hzero
    have hdenominator : (Convergents.start target).next.denominator = 1 := rfl
    refine hends ⟨hfinite, ?_, by rw [hdenominator]; decide, hwhole⟩
    rw [hnumerator, hdenominator]
    exact not_isClose_zero hx
  · exact h.numerators_pos.trans_le (h.le_next hx hfinite hpos.ne').1

end DeskCalculator.Convergents
