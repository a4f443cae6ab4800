import DeskCalculator.Proofs.Result.Euclid
import DeskCalculator.Proofs.Result.Fraction

/-!
# Fractions that are recovered

The hint of the float nearest to a fraction `p / q` in lowest terms, with `1 < q ≤ 10000` and a
magnitude up to a billion, is `p/q`, or else a fraction with a smaller denominator that is within
the tolerance (`fractionHint_of_nearest`).  The tolerance is relative to the value, so the second
happens for large values: half of an odd number above a billion is shown as a whole one
(`fractionHint_large_half`).  It does not happen where `p * (q - 1)` is at most 999999000, so
every such fraction between -10 and 10 is recovered.
-/

namespace DeskCalculator

open Binary

variable {v : Float} {p : ℤ} {q : ℕ}

/-! ## The nearest float -/

theorem denotes_fractionMagnitude : Denotes fractionMagnitude (10 ^ 9) := by
  have heq : fractionMagnitude = nearestFloat (10 ^ 9) := by
    have hscientific := ofScientific_eq one_pos false 9
    rwa [if_neg Bool.false_ne_true, Nat.cast_one, one_mul] at hscientific
  rw [heq]
  refine IsBinary.denotes ⟨10 ^ 9, 0, by norm_num, by norm_num, by norm_num⟩ (by norm_num) ?_
  calc (10 ^ 9 : ℚ) < 2 ^ (30 : ℤ) := by norm_num
    _ ≤ 2 ^ (1024 : ℤ) := zpow_le_zpow_right₀ (by norm_num) (by norm_num)

theorem abs_fraction (p : ℤ) (q : ℕ) : |(p / q : ℚ)| = p.natAbs / q := by
  rw [abs_div, Nat.abs_cast, Nat.cast_natAbs, Int.cast_abs]

/-- A fraction in lowest terms with a small denominator is not too small. -/
theorem le_abs_fraction (hq : 1 < q) (hbound : q ≤ 10000) (hcoprime : p.natAbs.Coprime q) :
    1 / 10 ^ 4 ≤ |(p / q : ℚ)| := by
  have hpos : (0 : ℚ) < q := by exact_mod_cast one_pos.trans hq
  have hle : (q : ℚ) ≤ 10 ^ 4 := by exact_mod_cast hbound
  have hne : p.natAbs ≠ 0 := by
    intro hzero
    rw [hzero, Nat.coprime_zero_left] at hcoprime
    exact hq.ne' hcoprime
  have hone : (1 : ℚ) ≤ p.natAbs := by exact_mod_cast Nat.one_le_iff_ne_zero.2 hne
  rw [abs_fraction, div_le_div_iff₀ (by norm_num) hpos]
  linarith

/-- It is not near a whole number. -/
theorem le_abs_sub_intCast (hq : 1 < q) (hcoprime : p.natAbs.Coprime q) (n : ℤ) :
    1 / q ≤ |(n : ℚ) - p.natAbs / q| := by
  have hpos : (0 : ℚ) < q := by exact_mod_cast one_pos.trans hq
  have hne : n * q - p.natAbs ≠ 0 := by
    intro hzero
    have hdvd : (q : ℤ) ∣ p.natAbs := ⟨n, by linarith⟩
    have hone := Nat.Coprime.eq_one_of_dvd hcoprime.symm (by exact_mod_cast hdvd)
    exact hq.ne' hone
  have hone : 1 ≤ |(n : ℚ) * q - p.natAbs| := by
    have hcast : (n : ℚ) * q - p.natAbs = ((n * q - p.natAbs : ℤ) : ℚ) := by
      rw [Int.cast_sub, Int.cast_mul, Int.cast_natCast, Int.cast_natCast]
    rw [hcast]
    exact_mod_cast Int.one_le_abs hne
  have hsplit : (n : ℚ) - p.natAbs / q = (n * q - p.natAbs) / q := by
    rw [sub_div, mul_div_cancel_right₀ _ hpos.ne']
  rw [hsplit, abs_div, Nat.abs_cast]
  gcongr

/-- What is near a number has its sign. -/
theorem neg_iff_of_near {x y : ℚ} (hx : 0 < |x|) (h : 2 ^ 53 * |y - x| ≤ |x|) : y < 0 ↔ x < 0 := by
  have hlow := neg_abs_le (y - x)
  have hhigh := le_abs_self (y - x)
  rcases abs_cases x with ⟨habs, hsign⟩ | ⟨habs, hsign⟩ <;> rw [habs] at hx h <;> constructor <;>
    intro <;> linarith

section

variable {x : ℚ} (hv : IsNearest v x) (hlow : 1 / 10 ^ 4 ≤ |x|) (hhigh : |x| ≤ 10 ^ 9)
include hv hlow hhigh

/-- A nearest float is as near as rounding brings it. -/
theorem mul_abs_value_sub_le : 2 ^ 53 * |value v - x| ≤ |x| := by
  have hdistance := hv.distance_le (lt_overflow_of_le (by linarith))
  have hnormal : (2 : ℚ) ^ (-1022 : ℤ) ≤ |x| := by
    calc (2 : ℚ) ^ (-1022 : ℤ) ≤ 2 ^ (-20 : ℤ) := zpow_le_zpow_right₀ (by norm_num) (by norm_num)
      _ ≤ 1 / 10 ^ 4 := by norm_num
      _ ≤ |x| := hlow
  have hrounding := mul_abs_nearest_sub_le hnormal
  linarith

theorem mul_abs_magnitude_sub_le : 2 ^ 53 * |magnitude v - (|x|)| ≤ |x| := by
  have hle := abs_abs_sub_abs_le (value v) x
  rw [abs_value] at hle
  linarith [mul_abs_value_sub_le hv hlow hhigh]

/-- A billion is a float itself, and nothing below it is rounded to what lies above it. -/
theorem magnitude_le : magnitude v ≤ 10 ^ 9 := by
  have hdistance := hv.distance_le (lt_overflow_of_le (by linarith))
  have hclosest := abs_nearest_sub_le_of_isBinary (b := 10 ^ 9) (x := |x|) (by linarith)
    ⟨10 ^ 9, 0, by norm_num, by norm_num, by norm_num⟩
  rw [abs_of_nonneg (sub_nonneg.2 hhigh)] at hclosest
  have hle := (le_abs_self _).trans (abs_abs_sub_abs_le (value v) x)
  rw [abs_value] at hle
  linarith

private theorem magnitude_pos : 0 < magnitude v := by
  have hnear := mul_abs_magnitude_sub_le hv hlow hhigh
  linarith [neg_abs_le (magnitude v - (|x|))]

end

section

variable (hq : 1 < q) (hbound : q ≤ 10000) (hcoprime : p.natAbs.Coprime q)
  (hsize : |(p / q : ℚ)| ≤ 10 ^ 9) (hv : IsNearest v (p / q))
include hq hbound hcoprime hsize hv

/-- The float nearest to a fraction has a hint. -/
theorem hasFraction_of_isNearest : hasFraction v = true := by
  have hlow := le_abs_fraction hq hbound hcoprime
  have hfinite := denotes_fractionMagnitude.isFinite
  have hsmall : ¬ v.abs > fractionMagnitude := by
    rw [gt_iff_lt, lt_iff hfinite (by rw [isFinite_abs, hv.isFinite]),
      denotes_fractionMagnitude.value_eq, value_abs hv.isFinite, not_lt]
    exact magnitude_le hv hlow hsize
  have hwhole : isWhole v = false := by
    rw [Bool.eq_false_iff, ne_eq, isWhole_iff hv.isFinite, Int.fract, sub_eq_zero]
    intro hwhole
    have hfar := le_abs_sub_intCast hq hcoprime ⌊magnitude v⌋
    rw [← hwhole, ← abs_fraction] at hfar
    have hnear := mul_abs_magnitude_sub_le hv hlow hsize
    have hlarge : (1 / 10 ^ 4 : ℚ) ≤ 1 / q :=
      one_div_le_one_div_of_le (by exact_mod_cast one_pos.trans hq) (by exact_mod_cast hbound)
    linarith
  simp [hasFraction, hv.isFinite, hsmall, hwhole]

private theorem neg_iff_of_isNearest : v < 0 ↔ p < 0 := by
  have hlow := le_abs_fraction hq hbound hcoprime
  have hpos : (0 : ℚ) < q := by exact_mod_cast one_pos.trans hq
  have hsign : p < 0 ↔ (p / q : ℚ) < 0 := by
    rw [div_lt_iff₀ hpos, zero_mul, Int.cast_lt_zero]
  rw [neg_iff_value_neg hv.isFinite, hsign]
  exact neg_iff_of_near (hlow.trans_lt' (by norm_num)) (mul_abs_value_sub_le hv hlow hsize)

theorem approximates_of_isNearest : Convergents.Approximates v.abs p.natAbs q := by
  have hlow := le_abs_fraction hq hbound hcoprime
  have hdenotes := denotes_abs hv.isFinite (magnitude_pos hv hlow hsize)
  have hnear := mul_abs_magnitude_sub_le hv hlow hsize
  have hpos : (0 : ℚ) < q := by exact_mod_cast one_pos.trans hq
  rw [abs_fraction] at hnear hsize
  rw [div_le_iff₀ hpos] at hsize
  refine ⟨hcoprime, hq, hbound, by exact_mod_cast hsize, ?_, ?_⟩
  · rwa [hdenotes.magnitude_eq]
  · rwa [hdenotes.magnitude_eq]

end

/-! ## The hint -/

/-- The hint of the float nearest to a fraction is that fraction, or one that has a smaller
denominator and is within the tolerance. -/
theorem exists_fractionHint_eq (hq : 1 < q) (hbound : q ≤ 10000) (hcoprime : p.natAbs.Coprime q)
    (hsize : |(p / q : ℚ)| ≤ 10 ^ 9) (hv : IsNearest v (p / q)) :
    ∃ numerator denominator : ℕ,
      fractionHint v = .ok (some (fractionText (p < 0) numerator denominator)) ∧
      numerator.Coprime denominator ∧ 0 < denominator ∧
      ((numerator = p.natAbs ∧ denominator = q) ∨
        denominator < q ∧ Convergents.IsClose v.abs numerator denominator ∧
          10 ^ 15 * |(p.natAbs / q : ℚ) - numerator / denominator| ≤
            1000001 * (p.natAbs / q)) := by
  have happroximates := approximates_of_isNearest hq hbound hcoprime hsize hv
  have hsign := neg_iff_of_isNearest hq hbound hcoprime hsize hv
  obtain ⟨numerator, denominator, hexpand, hlowest, hpos, hcases⟩ := happroximates.expand_eq
  refine ⟨numerator, denominator, ?_, hlowest, hpos, hcases⟩
  refine fractionHint_eq_some_iff.2 ⟨hasFraction_of_isNearest hq hbound hcoprime hsize hv,
    numerator, denominator, hexpand, ?_, ?_⟩
  · rcases hcases with ⟨-, rfl⟩ | ⟨hlt, -⟩
    · exact hbound
    · exact hlt.le.trans hbound
  · congr 1
    rw [decide_eq_decide, hsign]

/-- Fractions with smaller denominators are far away from a small one. -/
theorem lt_mul_of_near {n numerator denominator : ℕ} (hcoprime : n.Coprime q)
    (hlt : denominator < q) (hpos : 0 < denominator)
    (hnear : 10 ^ 15 * |(n / q : ℚ) - numerator / denominator| ≤ 1000001 * (n / q)) :
    999999000 < n * (q - 1) := by
  have hq : (0 : ℚ) < q := by exact_mod_cast hpos.trans hlt
  have hdenominator : (0 : ℚ) < denominator := by exact_mod_cast hpos
  have hne : (n * denominator - q * numerator : ℤ) ≠ 0 := by
    intro hzero
    have hequal : n * denominator = q * numerator := by exact_mod_cast sub_eq_zero.1 hzero
    have hdvd : q ∣ denominator := hcoprime.symm.dvd_of_dvd_mul_left ⟨numerator, hequal⟩
    exact absurd (Nat.le_of_dvd hpos hdvd) (not_le.2 hlt)
  have hone : 1 ≤ |(n * denominator - q * numerator : ℚ)| := by
    exact_mod_cast Int.one_le_abs hne
  rw [div_sub_div _ _ hq.ne' hdenominator.ne', abs_div, abs_of_pos (mul_pos hq hdenominator),
    ← mul_div_assoc, ← mul_div_assoc, div_le_div_iff₀ (mul_pos hq hdenominator) hq] at hnear
  have hproduct : (10 ^ 15 * q : ℚ) ≤ 1000001 * (n * denominator) * q := by
    calc (10 ^ 15 * q : ℚ) ≤ 10 ^ 15 * |(n * denominator - q * numerator : ℚ)| * q := by
          gcongr
          linarith
      _ ≤ 1000001 * n * (q * denominator) := hnear
      _ = 1000001 * (n * denominator) * q := by ring
  have hlarge : 10 ^ 15 ≤ 1000001 * (n * denominator) := by
    exact_mod_cast le_of_mul_le_mul_right hproduct hq
  have hle : n * denominator ≤ n * (q - 1) := Nat.mul_le_mul_left n (Nat.le_sub_one_of_lt hlt)
  omega

/-- So none of them passes the test for closeness. -/
theorem not_isClose_of_mul_le {n : ℕ} (h : Convergents.Approximates v n q)
    (hsmall : n * (q - 1) ≤ 999999000) (numerator denominator : ℕ) (hpos : 0 < denominator)
    (hlt : denominator < q) : ¬ Convergents.IsClose v numerator denominator := by
  intro hclose
  have hnear := h.distance_le hpos (hlt.le.trans h.denominator_le) hclose
  exact absurd (lt_mul_of_near h.coprime hlt hpos hnear) (not_lt.2 hsmall)

/-- The float nearest to a fraction in lowest terms, with a denominator up to 10000 and a magnitude
up to a billion, has that fraction as its hint, with the sign on the numerator, unless a fraction
with a smaller denominator passes the test for closeness.  None does if `p * (q - 1)` is small.
Otherwise the hint may be such a fraction instead. -/
theorem fractionHint_of_nearest (hq : 1 < q) (hbound : q ≤ 10000) (hcoprime : p.natAbs.Coprime q)
    (hsize : |(p / q : ℚ)| ≤ 10 ^ 9) (hv : IsNearest v (p / q)) :
    ((∀ numerator denominator : ℕ, 0 < denominator → denominator < q →
        ¬ Convergents.IsClose v.abs numerator denominator) →
      fractionHint v = .ok (some (fractionText (p < 0) p.natAbs q))) ∧
    (p.natAbs * (q - 1) ≤ 999999000 →
      (∀ numerator denominator : ℕ, 0 < denominator → denominator < q →
        ¬ Convergents.IsClose v.abs numerator denominator) ∧
      fractionHint v = .ok (some (fractionText (p < 0) p.natAbs q))) ∧
    ∃ numerator denominator : ℕ,
      fractionHint v = .ok (some (fractionText (p < 0) numerator denominator)) ∧
      numerator.Coprime denominator ∧ 0 < denominator ∧
      ((numerator = p.natAbs ∧ denominator = q) ∨
        denominator < q ∧ Convergents.IsClose v.abs numerator denominator ∧
          10 ^ 15 * |(p.natAbs / q : ℚ) - numerator / denominator| ≤
            1000001 * (p.natAbs / q)) := by
  obtain ⟨numerator, denominator, hhint, hlowest, hpos, hcases⟩ :=
    exists_fractionHint_eq hq hbound hcoprime hsize hv
  have hshown : (∀ numerator denominator : ℕ, 0 < denominator → denominator < q →
      ¬ Convergents.IsClose v.abs numerator denominator) →
      fractionHint v = .ok (some (fractionText (p < 0) p.natAbs q)) := by
    intro hfar
    rcases hcases with ⟨rfl, rfl⟩ | ⟨hlt, hclose, -⟩
    · exact hhint
    · exact absurd hclose (hfar _ _ hpos hlt)
  refine ⟨hshown, fun hsmall => ?_, numerator, denominator, hhint, hlowest, hpos, hcases⟩
  have hfar :=
    not_isClose_of_mul_le (approximates_of_isNearest hq hbound hcoprime hsize hv) hsmall
  exact ⟨hfar, hshown hfar⟩

private theorem value_minus_three_quarters :
    (-0.75 : Float).isFinite = true ∧ value (-0.75) = ((-3 : ℤ) / (4 : ℕ) : ℚ) := by
  have hfinite : (-0.75 : Float).isFinite = true := by decide +kernel
  have hsign : signBit (-0.75) = true := by decide +kernel
  have hsignificand : significand (-0.75) = 3 * 2 ^ 51 := by decide +kernel
  have hscale : scale (-0.75) = -53 := by decide +kernel
  refine ⟨hfinite, ?_⟩
  rw [value, sign, hsign, magnitude, hsignificand, hscale]
  norm_num [signed]

/-- The hint of `-0.75` is `-3/4`. -/
theorem fractionHint_of_nearest_quarters :
    1 < 4 ∧ 4 ≤ 10000 ∧ (-3 : ℤ).natAbs.Coprime 4 ∧ |((-3 : ℤ) / (4 : ℕ) : ℚ)| ≤ 10 ^ 9 ∧
      IsNearest (-0.75) ((-3 : ℤ) / (4 : ℕ)) ∧ fractionHint (-0.75) = .ok (some "-3/4") := by
  have hnearest : IsNearest (-0.75) ((-3 : ℤ) / (4 : ℕ)) := by
    obtain ⟨hfinite, hvalue⟩ := value_minus_three_quarters
    rw [← hvalue]
    exact isNearest_value hfinite
  have hsize : |((-3 : ℤ) / (4 : ℕ) : ℚ)| ≤ 10 ^ 9 := by
    rw [abs_le]
    norm_num
  have hhint := (fractionHint_of_nearest (p := -3) (q := 4) (by decide) (by decide) (by decide)
    hsize hnearest).2.1 (by decide) |>.2
  exact ⟨by decide, by decide, by decide, hsize, hnearest, hhint⟩

private theorem value_large_half :
    (500000000.5 : Float).isFinite = true ∧
      value 500000000.5 = ((1000000001 : ℤ) / (2 : ℕ) : ℚ) := by
  have hfinite : (500000000.5 : Float).isFinite = true := by decide +kernel
  have hsign : signBit 500000000.5 = false := by decide +kernel
  have hsignificand : significand 500000000.5 = 1000000001 * 2 ^ 23 := by decide +kernel
  have hscale : scale 500000000.5 = -24 := by decide +kernel
  refine ⟨hfinite, ?_⟩
  rw [value, sign, hsign, magnitude, hsignificand, hscale]
  norm_num [signed]

/-- The hint of `500000000.5` is not `1000000001/2` but a whole number. -/
theorem fractionHint_large_half :
    1 < 2 ∧ 2 ≤ 10000 ∧ (1000000001 : ℤ).natAbs.Coprime 2 ∧
      |((1000000001 : ℤ) / (2 : ℕ) : ℚ)| ≤ 10 ^ 9 ∧
      IsNearest 500000000.5 ((1000000001 : ℤ) / (2 : ℕ)) ∧
      fractionHint 500000000.5 = .ok (some "500000000/1") ∧
      fractionHint 500000000.5 ≠
        .ok (some (fractionText ((1000000001 : ℤ) < 0) (1000000001 : ℤ).natAbs 2)) := by
  have hnearest : IsNearest 500000000.5 ((1000000001 : ℤ) / (2 : ℕ)) := by
    obtain ⟨hfinite, hvalue⟩ := value_large_half
    rw [← hvalue]
    exact isNearest_value hfinite
  have hsize : |((1000000001 : ℤ) / (2 : ℕ) : ℚ)| ≤ 10 ^ 9 := by
    rw [abs_le]
    norm_num
  have hhint : fractionHint 500000000.5 = .ok (some "500000000/1") := by decide +kernel
  refine ⟨by decide, by decide, by decide, hsize, hnearest, hhint, ?_⟩
  rw [hhint]
  decide +kernel

end DeskCalculator
