import DeskCalculator.Proofs.Result.Recovered

/-!
# Every expansion ends

An expansion goes on until it comes close to its target, which rounding can keep it from
doing.  It ends all the same, with its 21st term at the latest (`expansion_ends`), since the
denominators outgrow their bound by then.  Until it does, nothing goes wrong: no convergent
has the denominator zero or is too large for a float, and every fractional part whose
reciprocal is taken is positive (`SoundTerm`).  The reciprocal may be infinite, and then
there is no next term.

Fewer terms are not enough: the golden ratio needs all 21 (`expansion_ends_golden`).

## Strategy

The bound on the terms is that of `Reached.terms_le`.  That convergents are not too large
follows from a bound that every term keeps: none is greater than the whole part of the target
and one (`Reached.numerator_next_le`).
-/

namespace DeskCalculator

open Binary

namespace Convergents

variable {target : Float} {state last : Convergents} {terms : ℕ} {x : ℚ}

/-! ## The states that are reached -/

/-- What is left of an expansion behind a state that it reaches. -/
theorem Reached.expand_add (h : Reached target terms state) (count : ℕ) :
    expand target (terms + count) (.start target) = expand target count state := by
  induction h generalizing count with
  | start => rw [Nat.zero_add]
  | next hreached hgoes ih =>
      rw [Nat.add_assoc, Nat.add_comm 1, ih, expand_succ, step_of_goesOn hgoes]

/-- The states that an expansion reaches are those in which it is left when it is cut short. -/
theorem reached_iff :
    Reached target terms state ↔ expand target terms (.start target) = .unfinished state := by
  constructor
  · exact fun h => h.expand_add 0
  · intro h
    rcases Reached.start.expand_cases terms with
      ⟨_, _, -, -, hlast⟩ | ⟨_, _, -, -, -, hlast⟩ | ⟨last, hreached, hlast⟩ <;>
      rw [h] at hlast <;> cases hlast
    rwa [Nat.zero_add] at hreached

/-- Once an expansion has ended, taking up more terms makes no difference. -/
theorem Reached.expand_of_ends (h : Reached target terms last) (hends : ¬ GoesOn target last)
    {count : ℕ} (hcount : terms < count) :
    expand target count (.start target) = step target last := by
  obtain ⟨more, rfl⟩ := Nat.exists_eq_add_of_lt hcount
  rw [Nat.add_assoc, h.expand_add, expand_succ]
  rcases step_cases target last with ⟨-, hstep⟩ | ⟨hgoes, -⟩ | ⟨-, -, hstep⟩
  · rw [hstep]
  · exact absurd hgoes hends
  · rw [hstep]

/-! ## Remainders -/

/-- A remainder that is not finite is an infinite reciprocal. -/
theorem Reached.remainder_eq_infinity (h : Reached target terms state) (hx : Denotes target x)
    (hinfinite : state.remainder.isFinite = false) : terms ≠ 0 ∧ state.remainder = infinity := by
  cases h with
  | start =>
      have hfinite : (Convergents.start target).remainder.isFinite = true := hx.isFinite
      rw [hfinite] at hinfinite
      cases hinfinite
  | @next terms state hreached hgoes =>
      refine ⟨Nat.succ_ne_zero terms, ?_⟩
      have hdenotes := (hreached.denotes_remainder hx hgoes.isFinite).1
      have hpos := hgoes.fract_pos
      rw [Convergents.remainder_next hdenotes hpos.ne'] at hinfinite ⊢
      refine nearestFloat_eq_infinity_of_le (not_lt.1 fun hlt => ?_)
      have hfinite : (nearestFloat (1 / Int.fract (magnitude state.remainder))).isFinite = true :=
        (isFinite_pack_rounded (by positivity) .positive).2 hlt
      rw [hfinite] at hinfinite
      cases hinfinite

/-- The fractional part whose reciprocal is taken is positive. -/
theorem Reached.pos_sub_wholePart (h : Reached target terms state) (hx : Denotes target x)
    (hgoes : GoesOn target state) :
    0 < state.remainder - Float.ofNat (wholePart state.remainder) := by
  have hdenotes := (h.denotes_remainder hx hgoes.isFinite).1.sub_wholePart hgoes.fract_pos.ne'
  rw [pos_iff_value_pos hdenotes.isFinite, hdenotes.value_eq]
  exact hgoes.fract_pos

/-! ## Convergents are not too large -/

/-- Whether the last convergent of a state, if there is one, and the sum of the last two are at most
the whole part of the target and one. -/
structure Bounded (target : Float) (terms : ℕ) (state : Convergents) : Prop where
  last : terms ≠ 0 → state.numerator ≤ (wholePart target + 1) * state.denominator
  sum : state.numerator + state.previousNumerator ≤
    (wholePart target + 1) * (state.denominator + state.previousDenominator)

/-- Then the next convergent is not greater either. -/
theorem Bounded.numerator_next_le (h : Bounded target terms state)
    (hreached : Reached target terms state) (hx : Denotes target x)
    (hfinite : state.remainder.isFinite = true) :
    state.next.numerator ≤ (wholePart target + 1) * state.next.denominator := by
  rcases Nat.eq_zero_or_pos terms with rfl | hpos
  · cases hreached
    show wholePart target * 1 + 0 ≤ (wholePart target + 1) * (wholePart target * 0 + 1)
    omega
  · -- a term is at least 1, so what is added to the sum is a multiple of the last convergent
    obtain ⟨more, hterm⟩ := Nat.exists_eq_add_of_le'
      (hreached.one_le_wholePart hx hfinite hpos.ne')
    have hlast := Nat.mul_le_mul_left more (h.last hpos.ne')
    show wholePart state.remainder * state.numerator + state.previousNumerator ≤
      (wholePart target + 1) *
        (wholePart state.remainder * state.denominator + state.previousDenominator)
    rw [hterm]
    linarith [h.sum]

theorem Reached.bounded (h : Reached target terms state) (hx : Denotes target x) :
    Bounded target terms state := by
  induction h with
  | start => exact ⟨fun hne => absurd rfl hne, Nat.le_add_left 1 _⟩
  | @next terms state hreached hgoes ih =>
      have hnext := ih.numerator_next_le hreached hx hgoes.isFinite
      refine ⟨fun _ => hnext, ?_⟩
      show state.next.numerator + state.numerator ≤
        (wholePart target + 1) * (state.next.denominator + state.denominator)
      rcases Nat.eq_zero_or_pos terms with rfl | hpos
      · cases hreached
        show wholePart target * 1 + 0 + 1 ≤
          (wholePart target + 1) * (wholePart target * 0 + 1 + 0)
        omega
      · rw [Nat.mul_add]
        exact Nat.add_le_add hnext (ih.last hpos.ne')

/-- The quotient that is compared with the target is a finite float. -/
theorem Reached.isFinite_quotient (h : Reached target terms state) (hx : Denotes target x)
    (hfinite : state.remainder.isFinite = true) (hle : x ≤ 10 ^ 9) :
    (nearestQuotient state.next.numerator state.next.denominator).isFinite = true := by
  have hpos := h.denominator_next_pos hx hfinite
  have hnext := (h.bounded hx).numerator_next_le h hx hfinite
  refine (value_nearestQuotient hpos ?_).1
  have hwhole : (wholePart target : ℚ) ≤ x := by
    have hfloor := Int.floor_le (magnitude target)
    rwa [← wholePart_eq, Int.cast_natCast, hx.magnitude_eq] at hfloor
  have hcast : (state.next.numerator : ℚ) ≤ (wholePart target + 1) * state.next.denominator := by
    exact_mod_cast hnext
  calc (state.next.numerator / state.next.denominator : ℚ) ≤ wholePart target + 1 :=
        (div_le_iff₀ (by exact_mod_cast hpos)).2 hcast
    _ ≤ 10 ^ 9 + 1 := by linarith
    _ < overflow := lt_overflow_of_le (by norm_num)

/-! ## Terms -/

/-- What is true of a term that is taken behind so many others. -/
structure SoundTerm (target : Float) (terms : ℕ) (state : Convergents) : Prop where
  isFinite : state.remainder.isFinite = true
  /-- Only the first term can be zero. -/
  one_le : terms ≠ 0 → 1 ≤ wholePart state.remainder
  /-- Denominators grow at least like the Fibonacci numbers. -/
  fib_le : Nat.fib (terms + 1) ≤ state.next.denominator
  /-- Dividing by the denominator gives a number. -/
  denominator_pos : 0 < state.next.denominator
  isFinite_quotient :
    (nearestQuotient state.next.numerator state.next.denominator).isFinite = true
  /-- Where the expansion goes on, the bound has not been passed, and there is a fractional part to
  take the reciprocal of. -/
  goes_on : ∀ after, step target state = .unfinished after →
    after = state.next ∧ state.next.denominator ≤ fractionDenominator ∧
      0 < state.remainder - Float.ofNat (wholePart state.remainder)

theorem Reached.soundTerm (h : Reached target terms state) (hx : Denotes target x)
    (hle : x ≤ 10 ^ 9) (hfinite : state.remainder.isFinite = true) :
    SoundTerm target terms state where
  isFinite := hfinite
  one_le := h.one_le_wholePart hx hfinite
  fib_le := h.fib_le_next hx hfinite (h.fib_le hx).2
  denominator_pos := h.denominator_next_pos hx hfinite
  isFinite_quotient := h.isFinite_quotient hx hfinite hle
  goes_on after hstep := by
    rcases step_cases target state with ⟨-, hcase⟩ | ⟨hgoes, hcase⟩ | ⟨-, -, hcase⟩ <;>
      rw [hstep] at hcase <;> cases hcase
    exact ⟨rfl, hgoes.denominator_le, h.pos_sub_wholePart hx hgoes⟩

/-- How an expansion can end: with a fraction, or because the last reciprocal is infinite. -/
def EndsAt (target : Float) (last : Convergents) : Prop :=
  (∃ numerator denominator, step target last = .found numerator denominator) ∨
    step target last = .infinite ∧ last.remainder = infinity

theorem EndsAt.step_ne_unfinished (h : EndsAt target last) (state : Convergents) :
    step target last ≠ .unfinished state := by
  rcases h with ⟨_, _, hfound⟩ | ⟨hinfinite, -⟩
  · rw [hfound]
    exact nofun
  · rw [hinfinite]
    exact nofun

theorem Reached.exists_endsAt (hx : Denotes target x) :
    ∃ terms last, Reached target terms last ∧ ¬ GoesOn target last ∧ EndsAt target last := by
  rcases Reached.start.expand_cases 21 with
    ⟨terms, last, hreached, hinfinite, -⟩ | ⟨terms, last, hreached, hfinite, hends, -⟩ |
    ⟨last, hreached, -⟩
  · refine ⟨terms, last, hreached, fun hgoes => ?_, .inr ⟨step_of_not_isFinite hinfinite,
      (hreached.remainder_eq_infinity hx hinfinite).2⟩⟩
    rw [hgoes.isFinite] at hinfinite
    cases hinfinite
  · exact ⟨terms, last, hreached, hends, .inl ⟨_, _, step_of_not_goesOn hfinite hends⟩⟩
  · exact absurd (hreached.terms_le hx) (by decide)

end Convergents

open Convergents

variable {v : Float}

private theorem magnitude_le_of_hasFraction (h : hasFraction v = true) : magnitude v ≤ 10 ^ 9 := by
  simp only [hasFraction, Bool.and_eq_true, Bool.not_eq_true', decide_eq_false_iff_not] at h
  obtain ⟨⟨hfinite, hsmall⟩, -⟩ := h
  have hbound := denotes_fractionMagnitude.isFinite
  rwa [gt_iff_lt, Binary.lt_iff hbound (by rwa [isFinite_abs]), denotes_fractionMagnitude.value_eq,
    value_abs hfinite, not_lt] at hsmall

/-- The expansion of a value that may have a fraction hint ends with its 21st term at the latest,
either with a fraction or because a reciprocal is infinite, and it makes no difference how many more
terms might be taken.  Every term before that is sound: each but the first is at least 1, so the
denominators grow at least like the Fibonacci numbers, and nothing is divided by zero. -/
theorem expansion_ends (h : hasFraction v = true) :
    (∃ terms ≤ 20, ∃ last, expand v.abs terms (.start v.abs) = .unfinished last ∧
      EndsAt v.abs last ∧
      ∀ count, terms < count → expand v.abs count (.start v.abs) = step v.abs last) ∧
    ∀ terms state, expand v.abs terms (.start v.abs) = .unfinished state →
      terms ≤ 20 ∧ (SoundTerm v.abs terms state ∨ terms ≠ 0 ∧ state.remainder = infinity) := by
  have hx := (denotes_of_hasFraction h).1
  constructor
  · obtain ⟨terms, last, hreached, hends, hlast⟩ := Reached.exists_endsAt hx
    exact ⟨terms, hreached.terms_le hx, last, reached_iff.1 hreached, hlast,
      fun count => hreached.expand_of_ends hends⟩
  · intro terms state hstate
    have hreached := reached_iff.2 hstate
    refine ⟨hreached.terms_le hx, ?_⟩
    cases hfinite : state.remainder.isFinite with
    | true => exact .inl (hreached.soundTerm hx (magnitude_le_of_hasFraction h) hfinite)
    | false => exact .inr (hreached.remainder_eq_infinity hx hfinite)

/-- The golden ratio has the slowest denominators, and its expansion takes all 21 terms. -/
theorem expansion_ends_golden :
    let golden : Float := 1.618033988749895
    hasFraction golden = true ∧
      ∃ last, expand golden.abs 20 (.start golden.abs) = .unfinished last ∧
        EndsAt golden.abs last ∧ SoundTerm golden.abs 20 last := by
  intro golden
  have hfraction : hasFraction golden = true := by decide +kernel
  have hunfinished : (match expand golden.abs 20 (.start golden.abs) with
      | .unfinished last => last.remainder.isFinite
      | .found .. | .infinite => false) = true := by
    decide +kernel
  obtain ⟨⟨terms, hterms, last, hlast, hends, hstays⟩, hsound⟩ := expansion_ends hfraction
  cases hexpand : expand golden.abs 20 (.start golden.abs) with
  | found | infinite =>
      rw [hexpand] at hunfinished
      cases hunfinished
  | unfinished state =>
      rw [hexpand] at hunfinished
      change state.remainder.isFinite = true at hunfinished
      -- it has not ended before
      obtain rfl : terms = 20 := by
        by_contra hne
        have hearlier := hstays 20 (lt_of_le_of_ne hterms hne)
        rw [hexpand] at hearlier
        exact hends.step_ne_unfinished state hearlier.symm
      rw [hlast] at hexpand
      cases hexpand
      refine ⟨hfraction, last, rfl, hends, ?_⟩
      rcases (hsound 20 last hlast).2 with hterm | ⟨-, hinfinite⟩
      · exact hterm
      · have hnot : infinity.isFinite = false := by decide
        rw [hinfinite, hnot] at hunfinished
        cases hunfinished

end DeskCalculator
