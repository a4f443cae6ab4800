import DeskCalculator.Proofs.Float.Nearest

/-!
# Rounding in the model of the floats

The model of the floats rounds a mantissa with two residual bits.  This file
proves that what it computes is the nearest binary number
(`roundWithAccuracy_eq`).

## Strategy

`Describes` says which rationals a mantissa with its residual bits stands for.
Shifting keeps the description (`Describes.shiftRight`), rounding gives the
nearest integer (`Describes.roundedMantissa`), and the exponent that the model
shifts to is that of the unit (`targetExponent_eq`).  A second shift is needed
only where rounding has carried into the 54th bit.
-/

namespace DeskCalculator.Binary

open Float.Model Float.Model.UnpackedFloat

/-! ## Mantissas with residual bits -/

/-- Whether a mantissa with its residual bits stands for a number. -/
def Describes (mantissa : ExtendedMantissa) (x : ℚ) : Prop :=
  match mantissa.roundBit, mantissa.stickyBit with
  | false, false => x = mantissa.mantissa
  | false, true => mantissa.mantissa < x ∧ x < mantissa.mantissa + 1 / 2
  | true, false => x = mantissa.mantissa + 1 / 2
  | true, true => mantissa.mantissa + 1 / 2 < x ∧ x < mantissa.mantissa + 1

theorem Describes.bounds {mantissa : ExtendedMantissa} {x : ℚ} (h : Describes mantissa x) :
    (mantissa.mantissa : ℚ) ≤ x ∧ x < mantissa.mantissa + 1 := by
  obtain ⟨m, round, sticky⟩ := mantissa
  cases round with
  | false =>
      cases sticky with
      | false => exact ⟨h.ge, by rw [show x = (m : ℚ) from h]; linarith⟩
      | true => exact ⟨h.1.le, by linarith [h.2]⟩
  | true =>
      cases sticky with
      | false =>
          rw [show x = (m : ℚ) + 1 / 2 from h]
          constructor <;> linarith
      | true => exact ⟨by linarith [h.1], h.2⟩

theorem Describes.floor {mantissa : ExtendedMantissa} {x : ℚ} (h : Describes mantissa x) :
    ⌊x⌋ = mantissa.mantissa := by
  rw [Int.floor_eq_iff]
  exact_mod_cast h.bounds

/-- Rounding a mantissa by its residual bits gives the nearest integer. -/
theorem Describes.roundedMantissa {mantissa : ExtendedMantissa} {x : ℚ}
    (h : Describes mantissa x) : (mantissa.roundedMantissa : ℤ) = nearestEven x := by
  have hfloor := h.floor
  have hfract : Int.fract x = x - mantissa.mantissa := by
    rw [Int.fract, hfloor]
    push_cast
    rfl
  unfold nearestEven
  rw [hfract, hfloor]
  obtain ⟨m, round, sticky⟩ := mantissa
  cases round with
  | false =>
      cases sticky with
      | false =>
          rw [if_pos (by rw [show x = (m : ℚ) from h]; norm_num)]
          rfl
      | true =>
          have habove : x < m + 1 / 2 := h.2
          rw [if_pos (by dsimp only; linarith)]
          rfl
  | true =>
      cases sticky with
      | false =>
          have hmiddle : x = m + 1 / 2 := h
          rw [if_neg (by rw [hmiddle]; norm_num), if_neg (by rw [hmiddle]; norm_num)]
          rfl
      | true =>
          have hbelow : m + 1 / 2 < x := h.1
          rw [if_neg (by dsimp only; linarith), if_pos (by dsimp only; linarith)]
          rfl

theorem Describes.shiftRightOne {mantissa : ExtendedMantissa} {x : ℚ} (h : Describes mantissa x) :
    Describes mantissa.shiftRightOne (x / 2) := by
  obtain ⟨m, round, sticky⟩ := mantissa
  have hsplit : (m : ℚ) = 2 * (m / 2 : ℕ) + (m % 2 : ℕ) := by
    exact_mod_cast (Nat.div_add_mod m 2).symm
  rcases Nat.mod_two_eq_zero_or_one m with hparity | hparity
  · rw [hparity] at hsplit
    cases round <;> cases sticky <;>
      simp [Describes, ExtendedMantissa.shiftRightOne, hparity] at h ⊢
    · linarith
    · constructor <;> linarith
    · constructor <;> linarith
    · constructor <;> linarith
  · rw [hparity] at hsplit
    cases round <;> cases sticky <;>
      simp [Describes, ExtendedMantissa.shiftRightOne, hparity] at h ⊢
    · linarith
    · constructor <;> linarith
    · constructor <;> linarith
    · constructor <;> linarith

/-- Shifting divides by a power of two. -/
theorem Describes.shiftRight {mantissa : ExtendedMantissa} {x : ℚ} (h : Describes mantissa x)
    (amount : ℕ) : Describes (mantissa >>> amount) (x / 2 ^ amount) := by
  show Describes (amount.repeat ExtendedMantissa.shiftRightOne mantissa) _
  induction amount with
  | zero => simpa [Nat.repeat] using h
  | succ amount ih =>
      rw [Nat.repeat, pow_succ, ← div_div]
      exact ih.shiftRightOne

theorem describes_exact (m : ℕ) :
    Describes (.ofMantissaAndAccuracy m .exact) m := rfl

/-- A quotient is described by its whole part and the accuracy of the remainder. -/
theorem describes_div (numerator : ℕ) {denominator : ℕ} (hpos : 0 < denominator) :
    Describes (.ofMantissaAndAccuracy (numerator / denominator)
      (accuracyOfFraction (numerator % denominator) denominator))
      ((numerator : ℚ) / denominator) := by
  have hd : (0 : ℚ) < denominator := by exact_mod_cast hpos
  have hsplit : (numerator : ℚ) / denominator =
      (numerator / denominator : ℕ) + (numerator % denominator : ℕ) / denominator := by
    have hcast : (numerator : ℚ) =
        denominator * (numerator / denominator : ℕ) + (numerator % denominator : ℕ) := by
      exact_mod_cast (Nat.div_add_mod numerator denominator).symm
    conv_lhs => rw [hcast]
    rw [add_div, mul_div_cancel_left₀ _ hd.ne']
  rw [hsplit]
  generalize numerator / denominator = whole
  have hrest := Nat.mod_lt numerator hpos
  generalize numerator % denominator = rest at hrest
  have hlt : (rest : ℚ) / denominator < 1 := by
    rw [div_lt_one hd]
    exact_mod_cast hrest
  unfold accuracyOfFraction
  split_ifs with hzero
  · rw [hzero, Nat.cast_zero, zero_div, add_zero]
    exact describes_exact whole
  · have hposrest : (0 : ℚ) < (rest : ℚ) / denominator :=
      div_pos (by exact_mod_cast Nat.pos_of_ne_zero hzero) hd
    cases horder : compare (2 * rest) denominator with
    | lt =>
        have hhalf : (rest : ℚ) / denominator < 1 / 2 := by
          rw [div_lt_div_iff₀ hd (by norm_num)]
          have := Nat.compare_eq_lt.1 horder
          exact_mod_cast (by omega : rest * 2 < 1 * denominator)
        show (whole : ℚ) < _ ∧ _ < (whole : ℚ) + 1 / 2
        constructor <;> linarith
    | eq =>
        have hhalf : (rest : ℚ) / denominator = 1 / 2 := by
          rw [div_eq_div_iff hd.ne' (by norm_num)]
          have := Nat.compare_eq_eq.1 horder
          exact_mod_cast (by omega : rest * 2 = 1 * denominator)
        rw [hhalf]
        rfl
    | gt =>
        have hhalf : 1 / 2 < (rest : ℚ) / denominator := by
          rw [div_lt_div_iff₀ (by norm_num) hd]
          have := Nat.compare_eq_gt.1 horder
          exact_mod_cast (by omega : 1 * denominator < rest * 2)
        show (whole : ℚ) + 1 / 2 < _ ∧ _ < (whole : ℚ) + 1
        constructor <;> linarith

/-! ## The exponent -/

theorem totalExponent_eq (mantissa : ℕ) (exponent : ℤ) :
    totalExponent mantissa exponent = Nat.log 2 mantissa + 1 + exponent := by
  rw [totalExponent, Nat.log2_eq_log_two]

theorem targetExponent_binary64 (total : ℤ) :
    Format.binary64.targetExponent total = max (total - 53) (-1074) := rfl

/-- The logarithm of a number that is given by the whole part of a mantissa. -/
theorem log_eq {mantissa : ℕ} {exponent : ℤ} {x : ℚ} (hpos : 0 < mantissa)
    (hbelow : mantissa * 2 ^ exponent ≤ x) (habove : x < (mantissa + 1) * 2 ^ exponent) :
    Int.log 2 x = Nat.log 2 mantissa + exponent := by
  have hx : 0 < x := lt_of_lt_of_le (by positivity) hbelow
  have hlow : (Nat.log 2 mantissa : ℤ) + exponent ≤ Int.log 2 x := by
    refine (Int.zpow_le_iff_le_log (by norm_num) hx).1 (le_trans ?_ hbelow)
    have hpower : 2 ^ Nat.log 2 mantissa ≤ mantissa := Nat.pow_log_le_self 2 hpos.ne'
    rw [zpow_add₀ (by norm_num), zpow_natCast]
    exact mul_le_mul_of_nonneg_right (by exact_mod_cast hpower) (by positivity)
  have hhigh : Int.log 2 x < (Nat.log 2 mantissa + 1 : ℕ) + exponent := by
    refine (Int.lt_zpow_iff_log_lt (by norm_num) hx).1 (habove.trans_le ?_)
    have hpower : mantissa + 1 ≤ 2 ^ (Nat.log 2 mantissa + 1) :=
      Nat.lt_pow_succ_log_self (by norm_num) mantissa
    rw [zpow_add₀ (by norm_num), zpow_natCast]
    exact mul_le_mul_of_nonneg_right (by exact_mod_cast hpower) (by positivity)
  push_cast at hhigh
  omega

/-- The exponent that the model shifts to is that of the unit, unless it lies below the exponent
that the number is given with. -/
theorem targetExponent_eq {mantissa : ℕ} {exponent : ℤ} {x : ℚ} (hx : 0 < x)
    (hbelow : mantissa * 2 ^ exponent ≤ x) (habove : x < (mantissa + 1) * 2 ^ exponent)
    (hexponent : exponent ≤ unitExponent x) :
    Format.binary64.targetExponent (totalExponent mantissa exponent) = unitExponent x := by
  rw [totalExponent_eq, targetExponent_binary64]
  rcases Nat.eq_zero_or_pos mantissa with rfl | hpos
  · have hlog : Int.log 2 x < exponent := by
      refine (Int.lt_zpow_iff_log_lt (by norm_num) hx).1 ?_
      simpa using habove
    rw [Nat.log_zero_right]
    unfold unitExponent at hexponent ⊢
    omega
  · have hlog := log_eq hpos hbelow habove
    unfold unitExponent
    omega

/-- The unit around a mantissa with an exponent. -/
theorem unitExponent_eq {mantissa : ℕ} (hpos : 0 < mantissa) (exponent : ℤ) :
    unitExponent (mantissa * 2 ^ exponent) =
      Format.binary64.targetExponent (totalExponent mantissa exponent) := by
  have hpower : (0 : ℚ) < 2 ^ exponent := by positivity
  have hlog := @log_eq mantissa exponent _ hpos le_rfl
    (mul_lt_mul_of_pos_right (lt_add_one _) hpower)
  rw [totalExponent_eq, targetExponent_binary64]
  unfold unitExponent
  omega

/-! ## Rounding -/

/-- How many units are nearest to a number. -/
def factor (x : ℚ) : ℕ := (nearestEven (x / unit x)).toNat

/-- A number of units, written with 53 bits where it has more. -/
def ofFactor (sign : Sign) (factor : ℕ) (exponent : ℤ) : UnpackedFloat :=
  if h : factor = 0 then .zero sign
  else if factor < 2 ^ 53 then .finite sign factor exponent (Nat.pos_of_ne_zero h)
  else .finite sign (2 ^ 52) (exponent + 1) (by norm_num)

/-- What the model rounds a positive number to. -/
def rounded (sign : Sign) (x : ℚ) : UnpackedFloat := ofFactor sign (factor x) (unitExponent x)

theorem factor_eq {x : ℚ} (hx : 0 ≤ x) : (factor x : ℤ) = nearestEven (x / unit x) := by
  have hnonneg : 0 ≤ nearestEven (x / unit x) := by
    have hle := nearestEven_mono (div_nonneg hx (unit_pos x).le)
    simpa using (nearestEven_intCast 0).symm.le.trans (by exact_mod_cast hle)
  rw [factor, Int.toNat_of_nonneg hnonneg]

/-- The quotient by the unit has 53 bits. -/
theorem factor_le {x : ℚ} (hx : 0 < x) : factor x ≤ 2 ^ 53 := by
  have hquotient : x / unit x ≤ ((2 ^ 53 : ℤ) : ℚ) := by
    rw [div_le_iff₀ (unit_pos x)]
    exact_mod_cast (lt_mul_unit x).le
  have hle := nearestEven_mono hquotient
  rw [nearestEven_intCast, ← factor_eq hx.le] at hle
  exact_mod_cast hle

/-- It has no less, unless the unit is the least one. -/
theorem le_factor {x : ℚ} (hx : 0 < x) : 2 ^ 52 ≤ factor x ∨ unitExponent x = -1074 := by
  by_cases hleast : unitExponent x = -1074
  · exact .inr hleast
  · left
    have hunit : unitExponent x = Int.log 2 x - 52 := by
      unfold unitExponent at hleast ⊢
      omega
    have hquotient : ((2 ^ 52 : ℤ) : ℚ) ≤ x / unit x := by
      rw [le_div_iff₀ (unit_pos x)]
      exact_mod_cast mul_unit_le_of_unitExponent hx hunit
    have hle := nearestEven_mono hquotient
    rw [nearestEven_intCast, ← factor_eq hx.le] at hle
    exact_mod_cast hle

private theorem shiftToTargetExponent_of_lt {mantissa : ℕ} {exponent : ℤ}
    (hmantissa : mantissa < 2 ^ 53) (hexponent : -1074 ≤ exponent) :
    shiftToTargetExponent .binary64 mantissa exponent .exact =
      (⟨mantissa, false, false⟩, exponent) := by
  have hlog : Nat.log 2 mantissa ≤ 52 := by
    rcases Nat.eq_zero_or_pos mantissa with rfl | hpos
    · simp
    · exact Nat.lt_succ_iff.1 (Nat.log_lt_of_lt_pow hpos.ne' hmantissa)
  have hshift : (Format.binary64.targetExponent (totalExponent mantissa exponent) - exponent).toNat
      = 0 := by
    rw [totalExponent_eq, targetExponent_binary64]
    omega
  rw [shiftToTargetExponent, shiftToExponent, hshift]
  show (ExtendedMantissa.mk mantissa false false, exponent + 0) = _
  rw [add_zero]

private theorem shiftToTargetExponent_carry {exponent : ℤ} (hexponent : -1074 ≤ exponent) :
    shiftToTargetExponent .binary64 (2 ^ 53) exponent .exact =
      (⟨2 ^ 52, false, false⟩, exponent + 1) := by
  have hshift : (Format.binary64.targetExponent (totalExponent (2 ^ 53) exponent) - exponent).toNat
      = 1 := by
    rw [totalExponent_eq, targetExponent_binary64, Nat.log_pow (by norm_num)]
    omega
  rw [shiftToTargetExponent, shiftToExponent, hshift]
  rfl

/-- The model's rounding of an accurately described number is the nearest one. -/
theorem roundWithAccuracy_eq {mantissa : ℕ} {exponent : ℤ} {accuracy : Accuracy} {x : ℚ}
    (hx : 0 < x) (hdescribes : Describes (.ofMantissaAndAccuracy mantissa accuracy) (x / 2 ^ exponent))
    (hexponent : exponent ≤ unitExponent x) (sign : Sign) :
    roundWithAccuracy .binary64 sign mantissa exponent accuracy = rounded sign x := by
  have hmantissa : (ExtendedMantissa.ofMantissaAndAccuracy mantissa accuracy).mantissa = mantissa := by
    unfold ExtendedMantissa.ofMantissaAndAccuracy
    split <;> rfl
  have hpower : (0 : ℚ) < 2 ^ exponent := by positivity
  obtain ⟨hbelow, habove⟩ := hdescribes.bounds
  rw [hmantissa] at hbelow habove
  have htarget := targetExponent_eq hx ((le_div_iff₀ hpower).1 hbelow)
    ((div_lt_iff₀ hpower).1 habove) hexponent
  -- the first shift brings the mantissa to the unit
  obtain ⟨amount, hamount⟩ := Int.eq_ofNat_of_zero_le (sub_nonneg.2 hexponent)
  have hunit : exponent + amount = unitExponent x := by omega
  have hshifted := hdescribes.shiftRight amount
  have hquotient : x / 2 ^ exponent / 2 ^ amount = x / unit x := by
    rw [div_div, unit, ← hunit, zpow_add₀ (by norm_num), zpow_natCast]
  rw [hquotient] at hshifted
  have hfactor := hshifted.roundedMantissa
  rw [← factor_eq hx.le] at hfactor
  have hfirst : shiftToTargetExponent .binary64 mantissa exponent accuracy =
      (ExtendedMantissa.ofMantissaAndAccuracy mantissa accuracy >>> amount, unitExponent x) := by
    rw [shiftToTargetExponent, htarget, shiftToExponent, hamount, ← hunit]
    rfl
  have hlow : -1074 ≤ unitExponent x := le_max_right _ _
  have hle := factor_le hx
  unfold roundWithAccuracy rounded
  rw [hfirst]
  dsimp only
  rw [Int.ofNat_inj.1 hfactor]
  generalize factor x = factor at hle
  unfold ofFactor
  rcases hle.lt_or_eq with hlt | rfl
  · rw [shiftToTargetExponent_of_lt hlt hlow]
    simp only [hlt, if_true]
  · rw [shiftToTargetExponent_carry hlow]
    simp

/-- Rounding a mantissa whose exponent may be too large first splits it into smaller units. -/
theorem round_eq {mantissa : ℕ} (hpos : 0 < mantissa) (exponent : ℤ) (sign : Sign) :
    UnpackedFloat.round .binary64 sign mantissa exponent =
      rounded sign (mantissa * 2 ^ exponent) := by
  have hunit := unitExponent_eq hpos exponent
  unfold UnpackedFloat.round decreaseExponent
  rw [← hunit]
  dsimp only
  generalize hamount : (exponent - unitExponent (mantissa * 2 ^ exponent)).toNat = amount
  refine roundWithAccuracy_eq (by positivity) ?_ (by omega) sign
  have hquotient : (mantissa : ℚ) * 2 ^ exponent / 2 ^ (exponent - amount) =
      (mantissa <<< amount : ℕ) := by
    rw [Nat.shiftLeft_eq, mul_div_assoc, ← zpow_sub₀ (by norm_num), sub_sub_cancel, zpow_natCast]
    push_cast
    rfl
  rw [hquotient]
  exact describes_exact _

end DeskCalculator.Binary
