import DeskCalculator.Proofs.Decimal.Rounding
import DeskCalculator.Result.Rounding

/-!
# A result rounded to places

A result below `1e21` can always be rounded to at most eight places (`roundTo_eq`), and this gives
the float nearest to its rounded decimal (`isNearest_rounding`).  So rounding keeps the order and
commutes with a change of sign (`roundTo_is_nearest`), and a rounded result stays as it is when it
is rounded again (`roundTo_idempotent`).
-/

namespace DeskCalculator

open Binary

variable {u v : Float} {places : ℕ}

/-! ## Small magnitudes -/

theorem lt_overflow_of_le {x : ℚ} (h : x ≤ 10 ^ 21 + 1) : x < overflow := by
  have hlarge : (10 ^ 21 + 1 : ℚ) < 1 * 2 ^ (970 : ℤ) := by
    calc (10 ^ 21 + 1 : ℚ) < 2 ^ (70 : ℤ) := by norm_num
      _ ≤ 2 ^ (970 : ℤ) := zpow_le_zpow_right₀ (by norm_num) (by norm_num)
      _ = 1 * 2 ^ (970 : ℤ) := (one_mul _).symm
  refine (h.trans_lt hlarge).trans_le ?_
  exact mul_le_mul_of_nonneg_right (by norm_num) (by positivity)

theorem value_largeMagnitude : largeMagnitude.isFinite = true ∧ value largeMagnitude = 10 ^ 21 := by
  have heq : largeMagnitude = nearestFloat (10 ^ 21) := by
    have hscientific := ofScientific_eq one_pos false 21
    rwa [if_neg Bool.false_ne_true, Nat.cast_one, one_mul] at hscientific
  have hbinary : IsBinary (10 ^ 21) := ⟨5 ^ 21, 21, by norm_num, by norm_num, by norm_num⟩
  have hlt : (10 ^ 21 : ℚ) < overflow := lt_overflow_of_le (by norm_num)
  rw [heq]
  refine ⟨(isFinite_pack_rounded (by norm_num) .positive).2 hlt, ?_⟩
  rw [value_nearestFloat (by norm_num) hlt, nearest_of_isBinary hbinary]

/-- Magnitudes are compared with the largest one that is rounded as the floats are. -/
theorem le_abs_iff (h : v.isFinite = true) : v.abs ≥ largeMagnitude ↔ 10 ^ 21 ≤ magnitude v := by
  have habs : v.abs.isFinite = true := by rwa [isFinite_abs]
  rw [ge_iff_le, le_iff value_largeMagnitude.1 habs, value_largeMagnitude.2, value_abs h]

theorem abs_lt_iff (h : v.isFinite = true) : v.abs < largeMagnitude ↔ magnitude v < 10 ^ 21 := by
  have habs : v.abs.isFinite = true := by rwa [isFinite_abs]
  rw [lt_iff habs value_largeMagnitude.1, value_largeMagnitude.2, value_abs h]

/-! ## The rounded result -/

/-- A result rounded to places, where it can be rounded. -/
def rounding (places : ℕ) (v : Float) : Float :=
  withSign (signBit v) ((Decimal.ofFloat v).round places).toFloat

private theorem checkUnit_eq (hplaces : places ≤ 8) : checkUnit places = .ok () := by
  unfold checkUnit reach largestExponent roundingDigits
  rw [if_neg (by omega), if_neg (by omega)]

/-- The digits before the point and eight behind it are few enough. -/
theorem fitsRounding_eq (hplaces : places ≤ 8) (hsmall : magnitude v < 10 ^ 21) :
    fitsRounding (Decimal.ofFloat v) places = true := by
  rw [fitsRounding, Bool.or_eq_true, beq_iff_eq, decide_eq_true_iff]
  rcases Nat.eq_zero_or_pos (Decimal.ofFloat v).coefficient with hzero | hpos
  · exact .inl hzero
  · right
    have hle := Decimal.le_value hpos
    rw [Decimal.value_ofFloat] at hle
    have hpower : (10 : ℚ) ^ ((Decimal.ofFloat v).pointPosition - 1) < 10 ^ (21 : ℤ) :=
      hle.trans_lt hsmall
    have hpoint := (zpow_lt_zpow_iff_right₀ (by norm_num)).1 hpower
    unfold roundingDigits
    omega

/-- Nothing can go wrong when a small result is rounded to a few places. -/
theorem roundTo_eq (hplaces : places ≤ 8) (hfinite : v.isFinite = true)
    (hsmall : magnitude v < 10 ^ 21) : roundTo v (some places) = .ok (rounding places v) := by
  have hkept : ¬ (!v.isFinite || decide (v.abs ≥ largeMagnitude)) = true := by
    rw [hfinite, Bool.not_true, Bool.false_or, decide_eq_true_iff, le_abs_iff hfinite]
    exact not_le.2 hsmall
  unfold roundTo
  simp only [hkept, checkUnit_eq hplaces, fitsRounding_eq hplaces hsmall, if_true]
  rfl

/-- Any other float stays as it is. -/
theorem roundTo_eq_self (hlarge : ¬ (v.isFinite = true ∧ magnitude v < 10 ^ 21)) :
    roundTo v (some places) = .ok v := by
  have hkept : (!v.isFinite || decide (v.abs ≥ largeMagnitude)) = true := by
    cases hfinite : v.isFinite with
    | false => rfl
    | true =>
        rw [Bool.not_true, Bool.false_or, decide_eq_true_iff, le_abs_iff hfinite]
        exact not_lt.1 fun hsmall => hlarge ⟨hfinite, hsmall⟩
  unfold roundTo
  simp only [hkept, if_true]

/-! ## What it is rounded to -/

theorem value_round_ofFloat (places : ℕ) (v : Float) :
    ((Decimal.ofFloat v).round places).value = roundedTo places (magnitude v) := by
  rw [value_round, Decimal.value_ofFloat]

theorem value_round_lt (hsmall : magnitude v < 10 ^ 21) :
    ((Decimal.ofFloat v).round places).value < overflow := by
  rw [value_round_ofFloat]
  refine lt_overflow_of_le ((roundedTo_le (Int.natCast_nonneg places) _).trans ?_)
  linarith

/-- A sign that is put in front of a float is put in front of its value. -/
theorem value_withSign {w : Float} (hfinite : w.isFinite = true) :
    value (withSign (signBit v) w) = signed (sign v) (value w) := by
  unfold withSign sign
  split_ifs
  · exact value_neg hfinite
  · rfl

private theorem isNearest_withSign {w : Float} {d : ℚ} (h : IsNearest w d) :
    IsNearest (withSign (signBit v) w) (signed (sign v) d) := by
  unfold withSign sign
  split_ifs
  · exact h.neg
  · exact h

theorem isNearest_rounding (hsmall : magnitude v < 10 ^ 21) :
    IsNearest (rounding places v) (signed (sign v) (roundedTo places (magnitude v))) := by
  have hnearest := isNearest_toFloat (@value_round_lt v places hsmall)
  rw [value_round_ofFloat] at hnearest
  exact isNearest_withSign hnearest

theorem value_rounding (hsmall : magnitude v < 10 ^ 21) :
    value (rounding places v) = signed (sign v) (nearest (roundedTo places (magnitude v))) := by
  have hlt := @value_round_lt v places hsmall
  rw [rounding, value_withSign (isNearest_toFloat hlt).isFinite, value_toFloat hlt,
    value_round_ofFloat]

theorem magnitude_rounding (hsmall : magnitude v < 10 ^ 21) :
    magnitude (rounding places v) = nearest (roundedTo places (magnitude v)) := by
  rw [← abs_value, value_rounding hsmall, abs_signed,
    abs_of_nonneg (nearest_nonneg (roundedTo_nonneg (magnitude_nonneg v)))]

theorem signBit_rounding (hsmall : magnitude v < 10 ^ 21) :
    signBit (rounding places v) = signBit v := by
  have hlt := @value_round_lt v places hsmall
  have hpositive := signBit_toFloat hlt
  unfold rounding withSign
  split_ifs with hnegative
  · rw [signBit_neg (isNearest_toFloat hlt).isFinite, hpositive, hnegative]
    rfl
  · rw [hpositive, Bool.eq_false_iff.2 hnegative]

/-- The rounded result depends on the sign and on the rounded decimal alone. -/
theorem rounding_congr (hsign : signBit u = signBit v)
    (hrounded : roundedTo places (magnitude u) = roundedTo places (magnitude v)) :
    rounding places u = rounding places v := by
  rw [← value_round_ofFloat, ← value_round_ofFloat] at hrounded
  rw [rounding, rounding, hsign, Decimal.toFloat_congr hrounded]

private theorem rounding_neg (hfinite : v.isFinite = true) :
    rounding places (-v) = -rounding places v := by
  have hvalue : ((Decimal.ofFloat (-v)).round places).value =
      ((Decimal.ofFloat v).round places).value := by
    rw [value_round_ofFloat, value_round_ofFloat, magnitude_neg hfinite]
  rw [rounding, rounding, signBit_neg hfinite, Decimal.toFloat_congr hvalue]
  cases signBit v with
  | false => rfl
  | true => exact (neg_neg_float _).symm

/-- Rounding keeps the order. -/
theorem rounding_mono (hu : u.isFinite = true) (hv : v.isFinite = true)
    (husmall : magnitude u < 10 ^ 21) (hvsmall : magnitude v < 10 ^ 21) (h : u ≤ v) :
    rounding places u ≤ rounding places v := by
  have hmono := @nearest_roundedTo_mono places
  have hnonneg : ∀ w : Float, 0 ≤ nearest (roundedTo places (magnitude w)) :=
    fun w => nearest_nonneg (roundedTo_nonneg (magnitude_nonneg w))
  rw [le_iff hu hv] at h
  rw [le_iff (isNearest_rounding husmall).isFinite (isNearest_rounding hvsmall).isFinite,
    value_rounding husmall, value_rounding hvsmall]
  unfold value at h
  cases hsign : sign u <;> cases hsign' : sign v <;> rw [hsign, hsign'] at h
  · exact neg_le_neg (hmono (magnitude_nonneg v) (neg_le_neg_iff.1 h))
  · exact (neg_nonpos.2 (hnonneg u)).trans (hnonneg v)
  · -- both of them are zeros
    change magnitude u ≤ -magnitude v at h
    have hzero : magnitude u = 0 := by linarith [magnitude_nonneg u, magnitude_nonneg v]
    have hzero' : magnitude v = 0 := by linarith [magnitude_nonneg u, magnitude_nonneg v]
    rw [hzero, hzero', roundedTo_zero, nearest_zero, signed_zero, signed_zero]
  · exact hmono (magnitude_nonneg u) h

/-- A result that is small enough can be rounded, and what it is rounded to has its sign and is the
float nearest to its rounded decimal.  So rounding commutes with a change of sign and keeps the
order. -/
theorem roundTo_is_nearest (hplaces : places ≤ 8) (hfinite : v.isFinite = true)
    (hsmall : v.abs < largeMagnitude) :
    ∃ w, roundTo v (some places) = .ok w ∧ signBit w = signBit v ∧
      (∃ d, IsRounding places (value v) d ∧ IsNearest w d) ∧
      roundTo (-v) (some places) = .ok (-w) ∧
      ∀ u : Float, u.isFinite = true → u.abs < largeMagnitude → v ≤ u →
        ∃ w', roundTo u (some places) = .ok w' ∧ w ≤ w' := by
  rw [abs_lt_iff hfinite] at hsmall
  refine ⟨rounding places v, roundTo_eq hplaces hfinite hsmall, signBit_rounding hsmall,
    ⟨_, ?_, isNearest_rounding hsmall⟩, ?_, ?_⟩
  · have hrounding := @isRounding_roundedTo places _ (magnitude_nonneg v)
    unfold value
    cases sign v with
    | positive => exact hrounding
    | negative => exact hrounding.neg
  · rw [← rounding_neg hfinite]
    refine roundTo_eq hplaces (by rwa [isFinite_neg]) ?_
    rwa [magnitude_neg hfinite]
  · intro u hu husmall hle
    rw [abs_lt_iff hu] at husmall
    exact ⟨_, roundTo_eq hplaces hu husmall, rounding_mono hfinite hu hsmall husmall hle⟩

/-- A number that is stored a little below the middle of two hundredths. -/
theorem roundTo_is_nearest_cent :
    (1.005 : Float).isFinite = true ∧ (1.005 : Float).abs < largeMagnitude ∧
      ∃ w, roundTo 1.005 (some 2) = .ok w ∧ signBit w = signBit 1.005 ∧
        (∃ d, IsRounding 2 (value 1.005) d ∧ IsNearest w d) ∧
        roundTo (-1.005) (some 2) = .ok (-w) ∧
        ∀ u : Float, u.isFinite = true → u.abs < largeMagnitude → 1.005 ≤ u →
          ∃ w', roundTo u (some 2) = .ok w' ∧ w ≤ w' := by
  have hfinite : (1.005 : Float).isFinite = true := by decide +kernel
  have hsmall : (1.005 : Float).abs < largeMagnitude := by decide +kernel
  exact ⟨hfinite, hsmall, @roundTo_is_nearest 1.005 2 (by norm_num) hfinite hsmall⟩

/-- A half goes away from zero. -/
example : (roundTo 2.5 (some 0)).toOption.map Float.toBits = some (3.0 : Float).toBits ∧
    (roundTo (-0.125) (some 2)).toOption.map Float.toBits = some (-0.13 : Float).toBits := by
  decide +kernel

/-- Rounding a rounded result once more does not change it. -/
theorem roundTo_idempotent (v : Float) (hplaces : places ≤ 8) :
    ∃ w, roundTo v (some places) = .ok w ∧ roundTo w (some places) = .ok w := by
  by_cases hv : v.isFinite = true ∧ magnitude v < 10 ^ 21
  · obtain ⟨hfinite, hsmall⟩ := hv
    refine ⟨_, roundTo_eq hplaces hfinite hsmall, ?_⟩
    have hnearest := @isNearest_rounding v places hsmall
    by_cases hw : magnitude (rounding places v) < 10 ^ 21
    · rw [roundTo_eq hplaces hnearest.isFinite hw]
      congr 1
      refine rounding_congr (signBit_rounding hsmall) ?_
      rw [magnitude_rounding hsmall]
      exact roundedTo_nearest (magnitude_nonneg v) (isBinary_magnitude hfinite)
    · exact roundTo_eq_self fun h => hw h.2
  · exact ⟨v, roundTo_eq_self hv, roundTo_eq_self hv⟩

/-- A tenth is not a float, but rounding it to one place twice is rounding it once. -/
theorem roundTo_idempotent_tenth :
    (1 : ℕ) ≤ 8 ∧ ∃ w, roundTo 0.1 (some 1) = .ok w ∧ roundTo w (some 1) = .ok w :=
  ⟨by norm_num, @roundTo_idempotent 1 0.1 (by norm_num)⟩

end DeskCalculator
