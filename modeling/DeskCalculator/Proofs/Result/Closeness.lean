import DeskCalculator.Proofs.Result.Convergents
import DeskCalculator.Proofs.Result.Rounding

/-!
# The tolerance of a fraction hint

The expansion of a float near `p / q` stops at the first convergent that is close to the float.
Closeness is tested in floats, with a tolerance that is relative to the value.  In terms of
exact numbers, for a fraction of moderate size with a small denominator (`Approximates`):

* what is nearer to `p / q` than the `1.01 * 10 ^ 9`th part of it passes the test
  (`Approximates.isClose`);
* what passes the test is not farther away than `1.000001 * 10 ^ -9` of it
  (`Approximates.distance_le`).

Between the two it depends on how the sides of the test are rounded.
-/

namespace DeskCalculator.Convergents

open Binary

variable {target : Float} {p q numerator denominator : ℕ}

/-- Whether a float is near a fraction in lowest terms that a hint can show: the denominator
is small, the fraction is not too large, and the float is as near as rounding brings it. -/
structure Approximates (target : Float) (p q : ℕ) : Prop where
  coprime : p.Coprime q
  one_lt : 1 < q
  denominator_le : q ≤ fractionDenominator
  le_mul : p ≤ 10 ^ 9 * q
  denotes : Denotes target (magnitude target)
  near : 2 ^ 53 * |magnitude target - p / q| ≤ (p / q : ℚ)

namespace Approximates

variable (h : Approximates target p q)
include h

/-! ## The fraction -/

theorem numerator_pos : 0 < p := by
  refine Nat.pos_of_ne_zero fun hzero => ?_
  have hone := h.coprime
  rw [hzero, Nat.coprime_zero_left] at hone
  exact h.one_lt.ne' hone

/-- The fraction lies between a ten-thousandth and a billion. -/
theorem fraction_bounds : (1 / 10 ^ 4 : ℚ) ≤ p / q ∧ (p / q : ℚ) ≤ 10 ^ 9 := by
  have hq : (0 : ℚ) < q := by exact_mod_cast one_pos.trans h.one_lt
  have hsmall : (q : ℚ) ≤ 10 ^ 4 := by exact_mod_cast h.denominator_le
  have hp : (1 : ℚ) ≤ p := by exact_mod_cast h.numerator_pos
  have hlarge : (p : ℚ) ≤ 10 ^ 9 * q := by exact_mod_cast h.le_mul
  constructor
  · rw [div_le_div_iff₀ (by norm_num) hq]
    linarith
  · rwa [div_le_iff₀ hq]

theorem magnitude_bounds : (1 - 1 / 2 ^ 53) * (p / q : ℚ) ≤ magnitude target ∧
    magnitude target ≤ (1 + 1 / 2 ^ 53) * (p / q : ℚ) := by
  have hnear := h.near
  have hlow := neg_abs_le (magnitude target - (p / q : ℚ))
  have hhigh := le_abs_self (magnitude target - (p / q : ℚ))
  constructor <;> linarith

/-! ## The two sides of the test -/

/-- The right side is about a billionth of the fraction. -/
theorem product_bounds : (10 ^ 9 - 1) * (p / q : ℚ) ≤ 10 ^ 18 * (magnitude target * tolerance) ∧
    10 ^ 18 * (magnitude target * tolerance) ≤ (10 ^ 9 + 1) * (p / q : ℚ) := by
  obtain ⟨hfraction, -⟩ := h.fraction_bounds
  obtain ⟨hlow, hhigh⟩ := h.magnitude_bounds
  have htolerance := abs_tolerance_sub_le
  rw [show (10 : ℚ) ^ (-9 : ℤ) = 1 / 10 ^ 9 by norm_num] at htolerance
  have hbelow := neg_abs_le (tolerance - 1 / 10 ^ 9)
  have habove := le_abs_self (tolerance - 1 / 10 ^ 9)
  generalize (p / q : ℚ) = x at *
  have hpos : 0 < magnitude target := h.denotes.pos
  constructor
  · calc (10 ^ 9 - 1) * x ≤ 10 ^ 18 * ((1 - 1 / 2 ^ 53) * x * ((1 - 1 / 2 ^ 53) / 10 ^ 9)) := by
          linarith
      _ ≤ 10 ^ 18 * (magnitude target * tolerance) := by
          gcongr
          linarith
  · calc 10 ^ 18 * (magnitude target * tolerance) ≤
        10 ^ 18 * ((1 + 1 / 2 ^ 53) * x * ((1 + 1 / 2 ^ 53) / 10 ^ 9)) := by
          gcongr
          · linarith [tolerance_bounds.1]
          · linarith
      _ ≤ (10 ^ 9 + 1) * x := by linarith

/-- A difference that is not above the right side is not above it when both are rounded. -/
theorem isClose_of_abs_nearest_sub_le (hpos : 0 < denominator)
    (hlt : (numerator / denominator : ℚ) < overflow)
    (hle : |magnitude target - nearest (numerator / denominator)| ≤ magnitude target * tolerance) :
    IsClose target numerator denominator := by
  rw [isClose_iff h.denotes hpos hlt]
  rcases (abs_nonneg (magnitude target - nearest (numerator / denominator))).eq_or_lt with
    hzero | hdistance
  · rw [← hzero, nearest_zero]
    exact nearest_nonneg (hzero.trans_le hle)
  · exact nearest_mono hdistance hle

/-- Rounding does not bring a difference that passes the test much closer. -/
theorem abs_nearest_sub_le_of_isClose (hpos : 0 < denominator)
    (hclose : IsClose target numerator denominator) :
    |magnitude target - nearest (numerator / denominator)| ≤
      (1 + 1 / 2 ^ 50) * (magnitude target * tolerance) := by
  obtain ⟨hfraction, -⟩ := h.fraction_bounds
  obtain ⟨hproduct, -⟩ := h.product_bounds
  rw [isClose_iff h.denotes hpos (lt_overflow_of_isClose h.denotes hpos hclose)] at hclose
  have hleast : (2 : ℚ) ^ (-1022 : ℤ) ≤ magnitude target * tolerance := by
    calc (2 : ℚ) ^ (-1022 : ℤ) ≤ 2 ^ (-60 : ℤ) := zpow_le_zpow_right₀ (by norm_num) (by norm_num)
      _ ≤ magnitude target * tolerance := by
          norm_num
          linarith
  have hright := mul_abs_nearest_sub_le hleast
  by_contra hfar
  rw [not_le] at hfar
  have hleft := mul_abs_nearest_sub_le (hleast.trans (by linarith) :
    2 ^ (-1022 : ℤ) ≤ |magnitude target - nearest (numerator / denominator)|)
  generalize |magnitude target - nearest (numerator / denominator)| = left at *
  generalize magnitude target * tolerance = right at *
  have hbelow := neg_abs_le (nearest left - left)
  have habove := le_abs_self (nearest right - right)
  linarith

end Approximates

/-! ## Fractions that pass -/

/-- A fraction with a small denominator is rounded by at most its `2 ^ 53`rd part. -/
theorem abs_nearest_fraction_sub_le (numerator : ℕ) (hpos : 0 < denominator)
    (hle : denominator ≤ fractionDenominator) :
    2 ^ 53 * |nearest (numerator / denominator) - numerator / denominator| ≤
      (numerator / denominator : ℚ) := by
  rcases Nat.eq_zero_or_pos numerator with rfl | hnumerator
  · rw [Nat.cast_zero, zero_div, nearest_zero, sub_zero, abs_zero, mul_zero]
  · refine mul_abs_nearest_sub_le ?_
    have hsmall : (denominator : ℚ) ≤ 2 ^ 20 := by
      exact_mod_cast hle.trans (by decide : fractionDenominator ≤ 2 ^ 20)
    have hone : (1 : ℚ) ≤ numerator := by exact_mod_cast hnumerator
    calc (2 : ℚ) ^ (-1022 : ℤ) ≤ 2 ^ (-20 : ℤ) :=
          zpow_le_zpow_right₀ (by norm_num) (by norm_num)
      _ = 1 / 2 ^ 20 := by norm_num
      _ ≤ numerator / denominator :=
          div_le_div₀ (by positivity) hone (by exact_mod_cast hpos) hsmall

namespace Approximates

variable (h : Approximates target p q)
include h

/-- What is near enough passes the test. -/
theorem isClose (hpos : 0 < denominator) (hle : denominator ≤ fractionDenominator)
    (hnear : 1010000000 * |(p / q : ℚ) - numerator / denominator| ≤ p / q) :
    IsClose target numerator denominator := by
  obtain ⟨hlow, hhigh⟩ := h.fraction_bounds
  obtain ⟨hproduct, -⟩ := h.product_bounds
  have hquotient := abs_nearest_fraction_sub_le numerator hpos hle
  have hvalue := h.near
  have hbelow := neg_abs_le ((p / q : ℚ) - numerator / denominator)
  refine h.isClose_of_abs_nearest_sub_le hpos (lt_overflow_of_le (by linarith)) ?_
  generalize (p / q : ℚ) = x at *
  generalize (numerator / denominator : ℚ) = y at *
  have htriangle : |magnitude target - nearest y| ≤
      |magnitude target - x| + |x - y| + |nearest y - y| := by
    rw [abs_sub_comm (nearest y)]
    exact (abs_sub_le _ y _).trans (add_le_add_left (abs_sub_le _ x _) _)
  linarith

/-- What passes the test is near. -/
theorem distance_le (hpos : 0 < denominator) (hle : denominator ≤ fractionDenominator)
    (hclose : IsClose target numerator denominator) :
    10 ^ 15 * |(p / q : ℚ) - numerator / denominator| ≤ 1000001 * (p / q) := by
  obtain ⟨hlow, hhigh⟩ := h.fraction_bounds
  obtain ⟨-, hproduct⟩ := h.product_bounds
  have hquotient := abs_nearest_fraction_sub_le numerator hpos hle
  have hvalue := h.near
  have htest := h.abs_nearest_sub_le_of_isClose hpos hclose
  have hbelow := neg_abs_le ((p / q : ℚ) - numerator / denominator)
  generalize (p / q : ℚ) = x at *
  generalize (numerator / denominator : ℚ) = y at *
  have htriangle : |x - y| ≤
      |magnitude target - x| + |magnitude target - nearest y| + |nearest y - y| := by
    rw [abs_sub_comm _ x]
    exact (abs_sub_le _ (nearest y) _).trans (add_le_add_left (abs_sub_le _ _ _) _)
  linarith

end Approximates

end DeskCalculator.Convergents
