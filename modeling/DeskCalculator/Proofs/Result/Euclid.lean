import DeskCalculator.Proofs.Result.Closeness

/-!
# The expansion of a float near a fraction

The expansion of a float near `p / q` follows the Euclidean algorithm on `p` and `q` until it
comes to `p / q` or to a convergent within the tolerance, in spite of the rounding error in the
float and in every reciprocal.

## Strategy

A state has two gaps, by which its convergents miss `p / q`; they are the remainders of the
Euclidean algorithm as long as the terms are those of `p / q` (`gap_next`, `previousGap_next`),
and together with the denominators they make up `q` (`Reached.mul_gaps`).  The exact remainder
of the expansion would be their quotient; the `defect` of a state says how far the remainder is
from it, times the gap.

A state is on track (`Tracks`) if its defect is at most a half, so that the next term is right,
and not larger than `2 ^ -53` for each rounding so far, in proportion to the denominators.  The
second is what rounding preserves (`Tracks.abs_defect_next_le`), and it implies the first where
the next convergent is not within the tolerance (`Tracks.abs_defect_next_le_half`).  Hence every
state that the expansion reaches is on track (`Reached.tracks`).
-/

namespace DeskCalculator.Convergents

open Binary

variable {target : Float} {p q terms : ℕ} {state : Convergents}

/-! ## Gaps -/

/-- How far the last convergent is from `p / q`, times both denominators. -/
def gap (p q terms : ℕ) (state : Convergents) : ℤ :=
  (-1) ^ terms * (q * state.numerator - p * state.denominator)

/-- How far the convergent before it is, to the other side. -/
def previousGap (p q terms : ℕ) (state : Convergents) : ℤ :=
  (-1) ^ terms * (p * state.previousDenominator - q * state.previousNumerator)

theorem gap_next (p q terms : ℕ) (state : Convergents) :
    gap p q (terms + 1) state.next =
      previousGap p q terms state - wholePart state.remainder * gap p q terms state := by
  unfold gap previousGap next
  push_cast
  ring

theorem previousGap_next (p q terms : ℕ) (state : Convergents) :
    previousGap p q (terms + 1) state.next = gap p q terms state := by
  unfold gap previousGap next
  ring

/-- The gaps and the denominators make up the denominator of the fraction. -/
theorem Reached.mul_gaps (h : Reached target terms state) (p q : ℕ) :
    state.denominator * previousGap p q terms state +
      state.previousDenominator * gap p q terms state = q := by
  have hsquare : ((-1) ^ terms * (-1) ^ terms : ℤ) = 1 := by
    rw [← mul_pow]
    norm_num
  have hdeterminant := h.determinant_eq
  unfold determinant at hdeterminant
  unfold gap previousGap
  linear_combination (-1) ^ terms * (q : ℤ) * hdeterminant + (q : ℤ) * hsquare

theorem Reached.mul_gaps_next (h : Reached target terms state) (p q : ℕ) :
    state.next.denominator * gap p q terms state +
      state.denominator * gap p q (terms + 1) state.next = q := by
  rw [← h.mul_gaps p q, gap_next]
  show ((wholePart state.remainder * state.denominator + state.previousDenominator : ℕ) : ℤ) * _ +
    _ = _
  push_cast
  ring

/-- A convergent without a gap is the fraction itself. -/
theorem eq_of_gap_eq_zero (hcoprime : p.Coprime q)
    (hstate : state.numerator.Coprime state.denominator) (h : gap p q terms state = 0) :
    state.numerator = p ∧ state.denominator = q := by
  have hcross : q * state.numerator = p * state.denominator := by
    have hdifference := (mul_eq_zero.1 h).resolve_left (pow_ne_zero _ (by norm_num))
    exact_mod_cast sub_eq_zero.1 hdifference
  constructor
  · refine Nat.dvd_antisymm (hstate.dvd_of_dvd_mul_right ⟨q, ?_⟩)
      (hcoprime.dvd_of_dvd_mul_left ⟨_, hcross⟩)
    rw [← hcross, mul_comm]
  · refine Nat.dvd_antisymm (hstate.symm.dvd_of_dvd_mul_right ⟨p, ?_⟩)
      (hcoprime.symm.dvd_of_dvd_mul_left ⟨_, hcross.symm⟩)
    rw [hcross, mul_comm]

/-- The distance from the fraction, by the gap. -/
theorem abs_sub_convergent (hq : 0 < q) (hpos : 0 < state.denominator)
    (hgap : 0 ≤ gap p q terms state) :
    |(p / q : ℚ) - state.numerator / state.denominator| =
      gap p q terms state / (q * state.denominator) := by
  have hq' : (0 : ℚ) < q := by exact_mod_cast hq
  have hpos' : (0 : ℚ) < state.denominator := by exact_mod_cast hpos
  have hcast : (gap p q terms state : ℚ) =
      (-1) ^ terms * (q * state.numerator - p * state.denominator) := by
    unfold gap
    push_cast
    rfl
  have hnonneg : (0 : ℚ) ≤ gap p q terms state := by exact_mod_cast hgap
  rw [← abs_of_nonneg hnonneg, hcast, abs_mul, abs_pow, abs_neg, abs_one, one_pow, one_mul,
    div_sub_div _ _ hq'.ne' hpos'.ne', abs_div, abs_of_pos (mul_pos hq' hpos'), abs_sub_comm]

/-! ## Defects -/

/-- How far the remainder is from the quotient of the gaps, times the gap. -/
def defect (p q terms : ℕ) (state : Convergents) : ℚ :=
  magnitude state.remainder * gap p q terms state - previousGap p q terms state

/-- The denominator of the convergent that the remainder itself would give. -/
def weight (state : Convergents) : ℚ :=
  magnitude state.remainder * state.denominator + state.previousDenominator

/-- Whether an expansion has followed the fraction so far and not come to it yet. -/
structure Tracks (p q terms : ℕ) (state : Convergents) : Prop where
  isFinite : state.remainder.isFinite = true
  gap_pos : 0 < gap p q terms state
  abs_defect_le_half : |defect p q terms state| ≤ 1 / 2
  abs_defect_le : 2 ^ 53 * |defect p q terms state| ≤ q * weight state * (p / q + 2 * terms)

/-- The gap behind the next term is the fractional part of the gap, up to the defect. -/
theorem gap_next_add_defect (p q terms : ℕ) (state : Convergents) :
    gap p q (terms + 1) state.next + defect p q terms state =
      Int.fract (magnitude state.remainder) * gap p q terms state := by
  rw [gap_next, defect, Int.fract, ← wholePart_eq]
  push_cast
  ring

theorem Reached.weight_mul_gap (h : Reached target terms state) (p q : ℕ) :
    weight state * gap p q terms state = q + state.denominator * defect p q terms state := by
  have hgaps : (state.denominator * previousGap p q terms state +
      state.previousDenominator * gap p q terms state : ℚ) = q := by
    exact_mod_cast h.mul_gaps p q
  rw [weight, defect, ← hgaps]
  ring

private theorem defect_next (p q terms : ℕ) (state : Convergents) :
    defect p q (terms + 1) state.next =
      (magnitude state.next.remainder * Int.fract (magnitude state.remainder) - 1) *
        gap p q terms state - magnitude state.next.remainder * defect p q terms state := by
  have hgap := gap_next_add_defect p q terms state
  rw [defect, previousGap_next, ← sub_eq_of_eq_add hgap.symm]
  ring

private theorem weight_next (state : Convergents) :
    magnitude state.next.remainder * weight state = weight state.next +
      (magnitude state.next.remainder * Int.fract (magnitude state.remainder) - 1) *
        state.denominator := by
  show _ * weight state = magnitude state.next.remainder *
    ((wholePart state.remainder * state.denominator + state.previousDenominator : ℕ) : ℚ) +
      state.denominator + _
  rw [weight, Int.fract, ← wholePart_eq]
  push_cast
  ring

theorem weight_next_bounds (hone : 1 ≤ magnitude state.next.remainder)
    (hpos : 0 < state.next.denominator) :
    1 ≤ weight state.next ∧ state.denominator ≤ weight state.next := by
  have hdenominator : (1 : ℚ) ≤ state.next.denominator := by exact_mod_cast hpos
  have hproduct := one_le_mul_of_one_le_of_one_le hone hdenominator
  have hnonneg : (0 : ℚ) ≤ state.denominator := Nat.cast_nonneg _
  show 1 ≤ _ + (state.denominator : ℚ) ∧ (state.denominator : ℚ) ≤ _ + (state.denominator : ℚ)
  constructor <;> linarith

/-! ## One term -/

namespace Tracks

/-- The next gap is on the other side. -/
theorem gap_next_nonneg (htracks : Tracks p q terms state) :
    0 ≤ gap p q (terms + 1) state.next := by
  have hsum := gap_next_add_defect p q terms state
  have hpos : (0 : ℚ) < gap p q terms state := by exact_mod_cast htracks.gap_pos
  have hnonneg := mul_nonneg (Int.fract_nonneg (magnitude state.remainder)) hpos.le
  have hdefect := (abs_le.1 htracks.abs_defect_le_half).2
  have hlow : (-1 : ℚ) < gap p q (terms + 1) state.next := by linarith
  have hint : -1 < gap p q (terms + 1) state.next := by exact_mod_cast hlow
  omega

theorem gap_le (htracks : Tracks p q terms state) (hreached : Reached target terms state)
    (h : Approximates target p q) : gap p q terms state ≤ q := by
  have hgaps := hreached.mul_gaps_next p q
  have hdenominator := hreached.denominator_next_pos h.denotes htracks.isFinite
  have hgap := htracks.gap_pos
  have hnext := mul_nonneg (Int.natCast_nonneg state.denominator) htracks.gap_next_nonneg
  have hle : gap p q terms state ≤ state.next.denominator * gap p q terms state :=
    le_mul_of_one_le_left hgap.le (by exact_mod_cast hdenominator)
  omega

theorem denominator_next_le (htracks : Tracks p q terms state)
    (hreached : Reached target terms state) : state.next.denominator ≤ q := by
  have hgaps := hreached.mul_gaps_next p q
  have hgap := htracks.gap_pos
  have hnext := mul_nonneg (Int.natCast_nonneg state.denominator) htracks.gap_next_nonneg
  have hle : (state.next.denominator : ℤ) ≤ state.next.denominator * gap p q terms state :=
    le_mul_of_one_le_right (Int.natCast_nonneg _) hgap
  omega

/-- Before the expansion comes to the fraction, denominators are smaller. -/
theorem denominator_next_lt (htracks : Tracks p q terms state)
    (hreached : Reached target terms state) (h : Approximates target p q)
    (hgap : 0 < gap p q (terms + 1) state.next) : state.next.denominator < q := by
  rcases Nat.eq_zero_or_pos terms with rfl | hpos
  · cases hreached
    exact h.one_lt
  · have hgaps := hreached.mul_gaps_next p q
    have hdenominator : 0 < state.denominator :=
      (Nat.fib_pos.2 hpos).trans_le (hreached.fib_le h.denotes).1
    have hle : (state.next.denominator : ℤ) ≤ state.next.denominator * gap p q terms state :=
      le_mul_of_one_le_right (Int.natCast_nonneg _) htracks.gap_pos
    have hlt : 0 < state.denominator * gap p q (terms + 1) state.next :=
      mul_pos (by exact_mod_cast hdenominator) hgap
    omega

/-- The remainder has a fractional part, and the next one is its reciprocal up to one rounding. -/
theorem remainder_next (htracks : Tracks p q terms state)
    (hreached : Reached target terms state) (h : Approximates target p q)
    (hgap : 0 < gap p q (terms + 1) state.next) :
    isWhole state.remainder = false ∧ state.next.remainder.isFinite = true ∧
      1 ≤ magnitude state.next.remainder ∧
      2 ^ 53 * |magnitude state.next.remainder * Int.fract (magnitude state.remainder) - 1| ≤
        1 := by
  have hdenotes := (hreached.denotes_remainder h.denotes htracks.isFinite).1
  have hsum := gap_next_add_defect p q terms state
  have hle := htracks.gap_le hreached h
  have hdefect := (abs_le.1 htracks.abs_defect_le_half).1
  have hpos : (0 : ℚ) < gap p q terms state := by exact_mod_cast htracks.gap_pos
  have hone : (1 : ℚ) ≤ gap p q (terms + 1) state.next := by exact_mod_cast hgap
  have hgap' : (gap p q terms state : ℚ) ≤ 10 ^ 4 := by
    exact_mod_cast hle.trans (by exact_mod_cast h.denominator_le)
  have hlt := Int.fract_lt_one (magnitude state.remainder)
  have hhalf : 1 / 2 ≤ Int.fract (magnitude state.remainder) * gap p q terms state := by linarith
  have hfract : 0 < Int.fract (magnitude state.remainder) :=
    pos_of_mul_pos_left (by linarith) hpos.le
  refine ⟨Bool.eq_false_iff.2 (mt (isWhole_iff htracks.isFinite).1 hfract.ne'), ?_⟩
  rw [Convergents.remainder_next hdenotes hfract.ne']
  generalize Int.fract (magnitude state.remainder) = part at *
  have hreciprocal : 1 ≤ 1 / part := one_le_one_div hfract hlt.le
  have hsmall : 1 / part ≤ 10 ^ 21 + 1 := by
    rw [div_le_iff₀ hfract]
    nlinarith
  have hoverflow := lt_overflow_of_le hsmall
  have hmagnitude : magnitude (nearestFloat (1 / part)) = nearest (1 / part) :=
    magnitude_pack_rounded (by positivity) hoverflow .positive
  rw [hmagnitude]
  exact ⟨(isFinite_pack_rounded (by positivity) .positive).2 hoverflow,
    IsBinary.le_nearest ⟨1, 0, by norm_num, by norm_num, by norm_num⟩ one_pos hreciprocal,
    abs_nearest_one_div_mul_sub_le hfract hlt.le⟩

/-- The denominators that a defect is measured in grow with the remainder, up to one rounding. -/
theorem mul_weight_le (htracks : Tracks p q terms state) (hreached : Reached target terms state)
    (h : Approximates target p q) (hgap : 0 < gap p q (terms + 1) state.next) :
    magnitude state.next.remainder * weight state * (p / q + 2 * terms) ≤
      weight state.next * (p / q + 2 * terms + 1) := by
  obtain ⟨-, -, hone, hrounding⟩ := htracks.remainder_next hreached h hgap
  have hscale : (p / q : ℚ) + 2 * terms ≤ 2 ^ 53 := by
    have hterms : (terms : ℚ) ≤ 20 := by exact_mod_cast hreached.terms_le h.denotes
    linarith [h.fraction_bounds.2]
  have hnonneg : (0 : ℚ) ≤ p / q + 2 * terms := by positivity
  obtain ⟨hlarge, hpart⟩ := weight_next_bounds hone
    (hreached.denominator_next_pos h.denotes htracks.isFinite)
  rw [weight_next]
  generalize magnitude state.next.remainder * Int.fract (magnitude state.remainder) - 1 = error at *
  generalize (p / q : ℚ) + 2 * terms = scale at *
  generalize weight state.next = next at *
  have herror : 2 ^ 53 * (error * state.denominator) ≤ next := by
    calc 2 ^ 53 * (error * state.denominator) ≤ 2 ^ 53 * |error| * state.denominator := by
          rw [← mul_assoc]
          gcongr
          exact le_abs_self error
      _ ≤ (1 : ℚ) * state.denominator := by gcongr
      _ ≤ next := by linarith
  have hproduct := mul_le_mul_of_nonneg_left herror hnonneg
  have hbound := mul_le_mul_of_nonneg_right hscale (zero_le_one.trans hlarge)
  linarith

/-- One rounding adds to the defect in proportion to the denominators. -/
theorem abs_defect_next_le (htracks : Tracks p q terms state)
    (hreached : Reached target terms state) (h : Approximates target p q)
    (hgap : 0 < gap p q (terms + 1) state.next) :
    2 ^ 53 * |defect p q (terms + 1) state.next| ≤
      q * weight state.next * (p / q + 2 * (terms + 1 : ℕ)) := by
  obtain ⟨-, -, hone, hrounding⟩ := htracks.remainder_next hreached h hgap
  have hdefect := htracks.abs_defect_le
  have hweight := htracks.mul_weight_le hreached h hgap
  have hlarge := (weight_next_bounds hone
    (hreached.denominator_next_pos h.denotes htracks.isFinite)).1
  have hgappos : (0 : ℚ) < gap p q terms state := by exact_mod_cast htracks.gap_pos
  have hgapq : (gap p q terms state : ℚ) ≤ q * weight state.next := by
    have hle : (gap p q terms state : ℚ) ≤ q := by exact_mod_cast htracks.gap_le hreached h
    exact hle.trans (le_mul_of_one_le_right (Nat.cast_nonneg q) hlarge)
  have hcast : (p / q : ℚ) + 2 * (terms + 1 : ℕ) = p / q + 2 * terms + 2 := by
    push_cast
    ring
  rw [defect_next, hcast]
  generalize magnitude state.next.remainder = rest at *
  generalize rest * Int.fract (magnitude state.remainder) - 1 = error at *
  generalize (p / q : ℚ) + 2 * terms = scale at *
  -- the rounding error acts on the gap, and the old defect grows as its denominators do
  calc 2 ^ 53 * |error * gap p q terms state - rest * defect p q terms state| ≤
        2 ^ 53 * (|error * gap p q terms state| + |rest * defect p q terms state|) := by
          gcongr
          exact abs_sub _ _
    _ = 2 ^ 53 * |error| * gap p q terms state + rest * (2 ^ 53 * |defect p q terms state|) := by
          rw [abs_mul, abs_mul, abs_of_pos hgappos, abs_of_pos (one_pos.trans_le hone)]
          ring
    _ ≤ 1 * gap p q terms state + rest * (q * weight state * scale) := by gcongr
    _ = gap p q terms state + q * (rest * weight state * scale) := by ring
    _ ≤ q * weight state.next + q * (weight state.next * (scale + 1)) := by gcongr
    _ = q * weight state.next * (scale + 2) := by ring

/-- Where the next convergent is not within the tolerance, the fraction is small in comparison to
the gap, and so is the defect. -/
theorem mul_fraction_le (hreached : Reached target terms state) (hgoes : GoesOn target state)
    (h : Approximates target p q) (hgap : 0 < gap p q (terms + 1) state.next) :
    (q : ℚ) * q * (p / q + 2 * (terms + 1 : ℕ)) ≤
      11 * 10 ^ 12 * gap p q (terms + 1) state.next := by
  have hpos := hreached.denominator_next_pos h.denotes hgoes.isFinite
  have hfar := mt (h.isClose hpos hgoes.denominator_le) hgoes.not_isClose
  rw [not_le, abs_sub_convergent (one_pos.trans h.one_lt) hpos hgap.le, ← mul_div_assoc] at hfar
  have hq : (0 : ℚ) < q := by exact_mod_cast one_pos.trans h.one_lt
  have hbound : (q : ℚ) ≤ 10 ^ 4 := by exact_mod_cast h.denominator_le
  have hone : (1 : ℚ) ≤ state.next.denominator := by exact_mod_cast hpos
  have hgap' : (1 : ℚ) ≤ gap p q (terms + 1) state.next := by exact_mod_cast hgap
  have hterms : ((terms + 1 : ℕ) : ℚ) ≤ 21 := by
    exact_mod_cast Nat.succ_le_succ (hreached.terms_le h.denotes)
  rw [lt_div_iff₀ (by positivity)] at hfar
  have hmul : (q : ℚ) * (p / q) ≤ 1010000000 * gap p q (terms + 1) state.next := by
    have hle : (p / q : ℚ) * (q * 1) ≤ p / q * (q * state.next.denominator) := by gcongr
    linarith
  have hnonneg : (0 : ℚ) ≤ p / q := by positivity
  generalize (p / q : ℚ) = x at *
  generalize (gap p q (terms + 1) state.next : ℚ) = next at *
  calc (q : ℚ) * q * (x + 2 * (terms + 1 : ℕ)) = q * (q * x) + q * q * (2 * (terms + 1 : ℕ)) := by
        ring
    _ ≤ 10 ^ 4 * (1010000000 * next) + 10 ^ 4 * 10 ^ 4 * (2 * 21) := by gcongr
    _ ≤ 11 * 10 ^ 12 * next := by linarith

theorem abs_defect_next_le_half (htracks : Tracks p q terms state)
    (hreached : Reached target terms state) (hgoes : GoesOn target state)
    (h : Approximates target p q) (hgap : 0 < gap p q (terms + 1) state.next) :
    |defect p q (terms + 1) state.next| ≤ 1 / 2 := by
  have hdefect := htracks.abs_defect_next_le hreached h hgap
  have hsmall := mul_fraction_le hreached hgoes h hgap
  have hweight := (hreached.next hgoes).weight_mul_gap p q
  have hle : (state.next.denominator : ℚ) ≤ q := by
    exact_mod_cast htracks.denominator_next_le hreached
  have hgap' : (0 : ℚ) < gap p q (terms + 1) state.next := by exact_mod_cast hgap
  have hscale : (0 : ℚ) ≤ p / q + 2 * (terms + 1 : ℕ) := by positivity
  generalize (p / q : ℚ) + 2 * (terms + 1 : ℕ) = scale at *
  generalize (gap p q (terms + 1) state.next : ℚ) = next at *
  generalize defect p q (terms + 1) state.next = error at *
  have hproduct : 2 ^ 53 * |error| * next ≤ 11 * 10 ^ 12 * (1 + |error|) * next := by
    calc 2 ^ 53 * |error| * next ≤ q * weight state.next * scale * next := by gcongr
      _ = q * scale * (q + state.next.denominator * error) := by
          rw [← hweight]
          ring
      _ ≤ q * scale * (q + q * |error|) := by
          have herror : state.next.denominator * error ≤ q * |error| :=
            (mul_le_mul_of_nonneg_left (le_abs_self error) (Nat.cast_nonneg _)).trans
              (mul_le_mul_of_nonneg_right hle (abs_nonneg error))
          gcongr
      _ = q * q * scale * (1 + |error|) := by ring
      _ ≤ 11 * 10 ^ 12 * next * (1 + |error|) := by gcongr
      _ = 11 * 10 ^ 12 * (1 + |error|) * next := by ring
  have hcancel := le_of_mul_le_mul_right hproduct hgap'
  linarith

/-- A convergent without a gap ends the expansion. -/
theorem gap_next_pos (htracks : Tracks p q terms state) (hreached : Reached target terms state)
    (hgoes : GoesOn target state) (h : Approximates target p q) :
    0 < gap p q (terms + 1) state.next := by
  refine htracks.gap_next_nonneg.lt_of_ne' fun hzero => hgoes.not_isClose ?_
  obtain ⟨hnumerator, hdenominator⟩ := eq_of_gap_eq_zero h.coprime hreached.coprime_next hzero
  rw [hnumerator, hdenominator]
  refine h.isClose (one_pos.trans h.one_lt) h.denominator_le ?_
  rw [sub_self, abs_zero, mul_zero]
  positivity

theorem next (htracks : Tracks p q terms state) (hreached : Reached target terms state)
    (hgoes : GoesOn target state) (h : Approximates target p q) :
    Tracks p q (terms + 1) state.next := by
  have hgap := htracks.gap_next_pos hreached hgoes h
  exact ⟨(htracks.remainder_next hreached h hgap).2.1, hgap,
    htracks.abs_defect_next_le_half hreached hgoes h hgap,
    htracks.abs_defect_next_le hreached h hgap⟩

end Tracks

/-! ## All terms -/

/-- The only defect of the first state is that of the float. -/
theorem Approximates.tracks (h : Approximates target p q) : Tracks p q 0 (start target) := by
  have hq : (0 : ℚ) < q := by exact_mod_cast one_pos.trans h.one_lt
  have hbound : (q : ℚ) ≤ 10 ^ 4 := by exact_mod_cast h.denominator_le
  have hgap : gap p q 0 (start target) = q := by simp [gap, start]
  have hweight : weight (start target) = 1 := by simp [weight, start]
  have hdefect : defect p q 0 (start target) = (magnitude target - p / q) * q := by
    rw [defect, hgap, sub_mul, div_mul_cancel₀ _ hq.ne']
    simp [previousGap, start]
  have herror : 2 ^ 53 * |defect p q 0 (start target)| ≤ p / q * q := by
    rw [hdefect, abs_mul, abs_of_pos hq, ← mul_assoc]
    exact mul_le_mul_of_nonneg_right h.near hq.le
  refine ⟨h.denotes.isFinite, ?_, ?_, ?_⟩
  · rw [hgap]
    exact_mod_cast one_pos.trans h.one_lt
  · have hlarge : (p / q : ℚ) * q ≤ 10 ^ 9 * 10 ^ 4 := by
      gcongr
      exact h.fraction_bounds.2
    linarith
  · rw [hweight]
    simpa [mul_comm] using herror

/-- Every state that the expansion of a float near a fraction reaches is on track. -/
theorem Reached.tracks (hreached : Reached target terms state) (h : Approximates target p q) :
    Tracks p q terms state := by
  induction hreached with
  | start => exact h.tracks
  | next hreached hgoes ih => exact ih.next hreached hgoes h

/-- The expansion of a float near a fraction ends with that fraction, or with one that has a
smaller denominator and is within the tolerance. -/
theorem Approximates.expand_eq (h : Approximates target p q) :
    ∃ numerator denominator : ℕ,
      expand target expansionTerms (.start target) = .found numerator denominator ∧
      numerator.Coprime denominator ∧ 0 < denominator ∧
      ((numerator = p ∧ denominator = q) ∨
        denominator < q ∧ IsClose target numerator denominator ∧
          10 ^ 15 * |(p / q : ℚ) - numerator / denominator| ≤ 1000001 * (p / q)) := by
  rcases Reached.start.expand_cases expansionTerms with
    ⟨terms, last, hreached, hinfinite, -⟩ | ⟨terms, last, hreached, hfinite, hends, hlast⟩ |
    ⟨last, hreached, -⟩
  · exact absurd (hreached.tracks h).isFinite (Bool.eq_false_iff.1 hinfinite)
  · have htracks := hreached.tracks h
    have hpos := hreached.denominator_next_pos h.denotes hfinite
    refine ⟨_, _, hlast, hreached.coprime_next, hpos, ?_⟩
    rcases htracks.gap_next_nonneg.eq_or_lt with hzero | hgap
    · exact .inl (eq_of_gap_eq_zero h.coprime hreached.coprime_next hzero.symm)
    · right
      have hlt := htracks.denominator_next_lt hreached h hgap
      have hle := hlt.le.trans h.denominator_le
      have hclose : IsClose target last.next.numerator last.next.denominator := by
        by_contra hfar
        exact hends ⟨hfinite, hfar, hle, (htracks.remainder_next hreached h hgap).1⟩
      exact ⟨hlt, hclose, h.distance_le hpos hle hclose⟩
  · have hterms := hreached.terms_le h.denotes
    exact absurd hterms (by decide)

end DeskCalculator.Convergents
