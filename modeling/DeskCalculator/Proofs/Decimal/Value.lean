import DeskCalculator.Decimal.Shortest
import DeskCalculator.Proofs.Float.Sign

/-!
# The number that a decimal stands for

The float of a decimal depends on the number alone that the decimal stands for
(`toFloat_congr`), so zeros at the end of its coefficient do not matter.  The exact
decimal of a float reads back as the float's magnitude (`toFloat_ofFloat`), and
therefore so does the shortest decimal, in whichever way it was found
(`toFloat_shortest`).
-/

namespace DeskCalculator.Decimal

open Binary

variable {d : Decimal} {v : Float}

/-- The number that a decimal stands for. -/
def value (d : Decimal) : ℚ := d.coefficient * 10 ^ d.exponent

theorem value_pos_iff : 0 < d.value ↔ 0 < d.coefficient := by
  have hpower : (0 : ℚ) < 10 ^ d.exponent := by positivity
  rw [value, mul_pos_iff_of_pos_right hpower, Nat.cast_pos]

theorem value_eq_zero_iff : d.value = 0 ↔ d.coefficient = 0 := by
  have hpower : (10 : ℚ) ^ d.exponent ≠ 0 := by positivity
  rw [value, mul_eq_zero, or_iff_left hpower, Nat.cast_eq_zero]

/-! ## Digits -/

theorem length_digits_pos (d : Decimal) : 0 < d.digits.length :=
  List.length_pos_iff.2 Nat.toDigits_ne_nil

/-- A coefficient is less than the power of ten that has one digit more. -/
theorem coefficient_lt (d : Decimal) : d.coefficient < 10 ^ d.digits.length :=
  (Nat.length_toDigits_le_iff (by decide) d.length_digits_pos).1 (le_refl _)

/-- A positive coefficient has no leading zeros. -/
theorem le_coefficient (hpos : 0 < d.coefficient) :
    10 ^ (d.digits.length - 1) ≤ d.coefficient := by
  by_contra hlt
  rcases Nat.eq_zero_or_pos (d.digits.length - 1) with hzero | hlonger
  · rw [hzero] at hlt
    omega
  · have hshorter := (Nat.length_toDigits_le_iff (by decide) hlonger).2 (not_le.1 hlt)
    have hlength : d.digits.length = (Nat.toDigits 10 d.coefficient).length := rfl
    omega

/-- The power of ten of the first digit of a positive decimal. -/
theorem le_value (hpos : 0 < d.coefficient) : 10 ^ (d.pointPosition - 1) ≤ d.value := by
  have hle : (10 : ℚ) ^ (d.digits.length - 1) ≤ d.coefficient := by
    exact_mod_cast le_coefficient hpos
  have hpoint : d.pointPosition - 1 = (d.digits.length - 1 : ℕ) + d.exponent := by
    rw [Nat.cast_sub d.length_digits_pos, pointPosition]
    ring
  rw [value, hpoint, zpow_add₀ (by norm_num), zpow_natCast]
  exact mul_le_mul_of_nonneg_right hle (by positivity)

/-! ## The float of a decimal -/

theorem toFloat_eq_nearestFloat (h : 0 < d.coefficient) : d.toFloat = nearestFloat d.value := by
  rw [toFloat, ofScientific_eq h, value]
  simp only [decide_eq_true_eq]
  congr 3
  split_ifs <;> omega

theorem toFloat_zero (h : d.coefficient = 0) :
    d.toFloat = .ofModel (.pack (.zero .positive)) := by
  rw [toFloat, h, ofScientific_zero]

/-- Decimals that stand for the same number have the same float. -/
theorem toFloat_congr {e : Decimal} (h : d.value = e.value) : d.toFloat = e.toFloat := by
  rcases Nat.eq_zero_or_pos d.coefficient with hzero | hpos
  · have hzero' : e.coefficient = 0 := by rwa [← value_eq_zero_iff, ← h, value_eq_zero_iff]
    rw [toFloat_zero hzero, toFloat_zero hzero']
  · have hpos' : 0 < e.coefficient := by rwa [← value_pos_iff, ← h, value_pos_iff]
    rw [toFloat_eq_nearestFloat hpos, toFloat_eq_nearestFloat hpos', h]

/-- Zeros at the end of the coefficient do not change the number. -/
theorem value_withoutTrailingZeros (d : Decimal) : d.withoutTrailingZeros.value = d.value := by
  fun_induction withoutTrailingZeros d with
  | case1 d h ih =>
      have hsplit : (d.coefficient : ℚ) = 10 * (d.coefficient / 10 : ℕ) := by
        have hdivides : d.coefficient = 10 * (d.coefficient / 10) := by omega
        exact_mod_cast hdivides
      rw [ih, value, value, hsplit, zpow_add₀ (by norm_num)]
      ring
  | case2 d h => rfl

/-! ## The exact decimal of a float -/

theorem value_ofFloat (v : Float) : (ofFloat v).value = magnitude v := by
  unfold ofFloat
  cases hscale : scale v with
  | ofNat power =>
      show ((significand v <<< power : ℕ) : ℚ) * 10 ^ (0 : ℤ) = _
      rw [magnitude, hscale, Nat.shiftLeft_eq]
      simp
  | negSucc power =>
      have hten : (10 : ℚ) ^ (power + 1) = 5 ^ (power + 1) * 2 ^ (power + 1) := by
        rw [← mul_pow]
        norm_num
      rw [@magnitude_eq_div v (power + 1) hscale]
      show ((significand v * 5 ^ (power + 1) : ℕ) : ℚ) * 10 ^ (-((power + 1 : ℕ) : ℤ)) = _
      rw [zpow_neg, zpow_natCast, hten]
      push_cast
      field_simp

/-- The exact decimal of a float reads back. -/
theorem toFloat_ofFloat (h : v.isFinite = true) : (ofFloat v).toFloat = v.abs := by
  have hvalue := value_ofFloat v
  rcases Nat.eq_zero_or_pos (significand v) with hzero | hpos
  · have hcoefficient : (ofFloat v).coefficient = 0 := by
      rw [← value_eq_zero_iff, hvalue, magnitude, hzero, Nat.cast_zero, zero_mul]
    rw [toFloat_zero hcoefficient, abs_eq_zero h hzero]
  · have hmagnitude := (magnitude_pos_iff v).2 hpos
    have hcoefficient : 0 < (ofFloat v).coefficient := by rwa [← value_pos_iff, hvalue]
    rw [toFloat_eq_nearestFloat hcoefficient, hvalue]
    exact (denotes_abs h hmagnitude).eq_nearestFloat.symm

/-! ## The shortest decimal -/

theorem ReadsBack.toFloat_eq (h : d.ReadsBack v) : d.toFloat = v.abs := eq_of_toBits_eq h

/-- The shortest decimal of a float reads back, as it was tried; where nothing was found the exact
decimal stands in. -/
theorem toFloat_shortest (h : v.isFinite = true) : (shortest v).toFloat = v.abs := by
  unfold shortest
  simp only
  rw [toFloat_congr (value_withoutTrailingZeros _)]
  -- how the candidates are made does not matter, as each has been tried
  generalize hfound : (List.findSome? _ _ : Option Decimal) = found
  cases found with
  | none => exact toFloat_ofFloat h
  | some d =>
      obtain ⟨count, -, hcandidate⟩ := List.exists_of_findSome?_eq_some hfound
      have hreads : d.ReadsBack v := by simpa using List.find?_some hcandidate
      exact hreads.toFloat_eq

theorem coefficient_shortest_pos (h : v.isFinite = true) (hpos : 0 < significand v) :
    0 < (shortest v).coefficient := by
  rw [Nat.pos_iff_ne_zero]
  intro hzero
  -- otherwise it would read back as zero, and the float is positive
  have habs := toFloat_shortest h
  have hdenotes := denotes_abs h ((magnitude_pos_iff v).2 hpos)
  obtain ⟨m, e, hm, hunpack, -⟩ := hdenotes
  rw [← habs, toFloat_zero hzero, @unpack_pack (.zero .positive) trivial] at hunpack
  cases hunpack

end DeskCalculator.Decimal
