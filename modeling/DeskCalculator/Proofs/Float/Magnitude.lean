import DeskCalculator.Expr.Function
import DeskCalculator.Proofs.Float.Operations

/-!
# The magnitude of a float

The significand and the scale of a float give its magnitude.  The sign does not
matter for it (`magnitude_abs`, `magnitude_neg`), and the magnitude of a float
that is neither zero nor infinite is what its absolute value denotes
(`denotes_abs`).  The whole part of a float is the floor of its magnitude
(`wholePart_eq`); both the floor and the fractional part of a number of the format
are of the format (`IsBinary.floor`, `IsBinary.fract`).
-/

namespace DeskCalculator.Binary

open Float.Model Float.Model.UnpackedFloat

/-- The magnitude of a finite float; that of any other is too large for a finite one. -/
def magnitude (v : Float) : ℚ := significand v * 2 ^ scale v

/-! ## Kinds of floats -/

theorem isFinite_iff (v : Float) : v.isFinite = true ↔ exponentField v ≠ 2047 := by
  show v.toModel.unpack.isFinite = true ↔ _
  rw [unpack_eq]
  split_ifs with hinfinite hzero hsignificand
  · exact iff_of_false Bool.false_ne_true (not_not.2 hinfinite)
  · exact iff_of_false Bool.false_ne_true (not_not.2 hinfinite)
  · exact iff_of_true rfl hinfinite
  · exact iff_of_true rfl hinfinite

theorem magnitude_nonneg (v : Float) : 0 ≤ magnitude v := by
  unfold magnitude
  positivity

theorem magnitude_pos_iff (v : Float) : 0 < magnitude v ↔ 0 < significand v := by
  have hpower : (0 : ℚ) < 2 ^ scale v := by positivity
  rw [magnitude, mul_pos_iff_of_pos_right hpower, Nat.cast_pos]

/-- The magnitude that an unpacked float stands for, where it is finite. -/
def extent : UnpackedFloat → ℚ
  | .finite _ mantissa exponent _ => mantissa * 2 ^ exponent
  | _ => 0

theorem magnitude_eq {v : Float} (h : v.isFinite = true) :
    magnitude v = extent v.toModel.unpack := by
  rw [unpack_eq, if_neg ((isFinite_iff v).1 h)]
  split_ifs with hsignificand
  · rw [magnitude, hsignificand, Nat.cast_zero, zero_mul]
    rfl
  · rfl

theorem Denotes.magnitude_eq {v : Float} {x : ℚ} (h : Denotes v x) : magnitude v = x := by
  have hextent := Binary.magnitude_eq h.isFinite
  obtain ⟨mantissa, exponent, hpos, hunpack, -, rfl⟩ := h
  rw [hextent, hunpack]
  rfl

theorem isStored_unpack (v : Float) : IsStored v.toModel.unpack := by
  rw [unpack_eq]
  split_ifs with hinfinite hfraction hsignificand
  · trivial
  · trivial
  · trivial
  · exact isStored_significand hinfinite _ _

/-! ## Signs -/

theorem unpack_abs (v : Float) : v.abs.toModel.unpack = v.toModel.unpack.abs := by
  have hstored := isStored_unpack v
  refine @unpack_pack v.toModel.unpack.abs ?_
  cases hunpack : v.toModel.unpack with
  | finite s mantissa exponent hpos =>
      rw [hunpack] at hstored
      exact hstored
  | _ => trivial

theorem unpack_neg (v : Float) : (-v).toModel.unpack = v.toModel.unpack.neg := by
  have hstored := isStored_unpack v
  refine @unpack_pack v.toModel.unpack.neg ?_
  cases hunpack : v.toModel.unpack with
  | finite s mantissa exponent hpos =>
      rw [hunpack] at hstored
      exact hstored
  | _ => trivial

theorem isFinite_abs (v : Float) : v.abs.isFinite = v.isFinite := by
  show v.abs.toModel.unpack.isFinite = v.toModel.unpack.isFinite
  rw [unpack_abs]
  cases v.toModel.unpack <;> rfl

theorem isFinite_neg (v : Float) : (-v).isFinite = v.isFinite := by
  show (-v).toModel.unpack.isFinite = v.toModel.unpack.isFinite
  rw [unpack_neg]
  cases v.toModel.unpack <;> rfl

theorem magnitude_abs {v : Float} (h : v.isFinite = true) : magnitude v.abs = magnitude v := by
  rw [magnitude_eq h, magnitude_eq (by rwa [isFinite_abs]), unpack_abs]
  cases v.toModel.unpack <;> rfl

theorem magnitude_neg {v : Float} (h : v.isFinite = true) : magnitude (-v) = magnitude v := by
  rw [magnitude_eq h, magnitude_eq (by rwa [isFinite_neg]), unpack_neg]
  cases v.toModel.unpack <;> rfl

theorem unpack_eq_finite {v : Float} (hfinite : v.isFinite = true) (hpos : 0 < significand v) :
    v.toModel.unpack = .finite (sign v) (significand v) (scale v) hpos := by
  rw [unpack_eq, if_neg ((isFinite_iff v).1 hfinite), dif_neg hpos.ne']

/-- A positive float denotes its magnitude. -/
theorem denotes_magnitude {v : Float} (hfinite : v.isFinite = true) (hpos : 0 < magnitude v)
    (hsign : sign v = .positive) : Denotes v (magnitude v) := by
  have hsignificand := (magnitude_pos_iff v).1 hpos
  refine ⟨significand v, scale v, hsignificand, ?_,
    isStored_significand ((isFinite_iff v).1 hfinite) hsignificand _, rfl⟩
  rw [unpack_eq_finite hfinite hsignificand, hsign]

/-- The absolute value of a float that is neither zero nor infinite denotes its magnitude. -/
theorem denotes_abs {v : Float} (hfinite : v.isFinite = true) (hpos : 0 < magnitude v) :
    Denotes v.abs (magnitude v) := by
  have hsignificand := (magnitude_pos_iff v).1 hpos
  refine ⟨significand v, scale v, hsignificand, ?_,
    isStored_significand ((isFinite_iff v).1 hfinite) hsignificand _, rfl⟩
  rw [unpack_abs, unpack_eq_finite hfinite hsignificand]
  rfl

/-! ## Whole and fractional parts -/

/-- A float whose scale is negative is a quotient. -/
theorem magnitude_eq_div {v : Float} {amount : ℕ} (h : scale v = -(amount : ℤ)) :
    magnitude v = (significand v : ℚ) / (2 ^ amount : ℕ) := by
  rw [magnitude, h, zpow_neg, zpow_natCast, ← div_eq_mul_inv, Nat.cast_pow, Nat.cast_ofNat]

/-- The whole part is the floor of the magnitude. -/
theorem wholePart_eq (v : Float) : (wholePart v : ℤ) = ⌊magnitude v⌋ := by
  unfold wholePart
  cases hscale : scale v with
  | ofNat power =>
      have hmagnitude : magnitude v = ((significand v <<< power : ℕ) : ℤ) := by
        rw [magnitude, hscale, Nat.shiftLeft_eq]
        push_cast
        rfl
      rw [hmagnitude, Int.floor_intCast]
  | negSucc power =>
      have hquotient := @magnitude_eq_div v (power + 1) hscale
      rw [hquotient, Rat.floor_natCast_div_natCast]
      show ((significand v >>> (power + 1) : ℕ) : ℤ) = _
      rw [Nat.shiftRight_eq_div_pow]
      norm_cast

/-- A float is whole if its magnitude has no fractional part. -/
theorem isWhole_iff {v : Float} (h : v.isFinite = true) :
    isWhole v = true ↔ Int.fract (magnitude v) = 0 := by
  unfold isWhole
  rw [h, Bool.true_and]
  cases hscale : scale v with
  | ofNat power =>
      have hmagnitude : magnitude v = ((significand v <<< power : ℕ) : ℤ) := by
        rw [magnitude, hscale, Nat.shiftLeft_eq]
        push_cast
        rfl
      rw [hmagnitude, Int.fract_intCast]
      exact iff_of_true rfl rfl
  | negSucc power =>
      have hquotient := @magnitude_eq_div v (power + 1) hscale
      have hpower : ((2 ^ (power + 1) : ℕ) : ℚ) ≠ 0 := by positivity
      rw [hquotient, Int.fract_div_natCast_eq_div_natCast_mod, div_eq_zero_iff, or_iff_left hpower,
        Nat.cast_eq_zero]
      show (significand v % (1 <<< (power + 1)) == 0) = true ↔ _
      rw [beq_iff_eq, Nat.one_shiftLeft]

theorem IsBinary.floor {x : ℚ} (h : IsBinary x) : IsBinary (⌊x⌋₊ : ℚ) := by
  obtain ⟨factor, exponent, hfactor, hlow, rfl⟩ := h
  rcases le_or_gt 0 exponent with hle | hlt
  · obtain ⟨power, rfl⟩ := Int.eq_ofNat_of_zero_le hle
    refine ⟨factor, power, hfactor, hlow, ?_⟩
    rw [zpow_natCast]
    exact_mod_cast congrArg (Nat.cast (R := ℚ)) (Nat.floor_natCast (factor * 2 ^ power))
  · obtain ⟨amount, hamount⟩ := Int.exists_eq_neg_ofNat hlt.le
    refine ⟨factor / 2 ^ amount, 0, (Nat.div_le_self _ _).trans_lt hfactor, by norm_num, ?_⟩
    have hquotient : (factor : ℚ) * 2 ^ exponent = (factor : ℚ) / (2 ^ amount : ℕ) := by
      rw [hamount, zpow_neg, zpow_natCast, ← div_eq_mul_inv, Nat.cast_pow, Nat.cast_ofNat]
    rw [hquotient, Nat.floor_div_natCast, Nat.floor_natCast, zpow_zero, mul_one]

theorem IsBinary.fract {x : ℚ} (h : IsBinary x) : IsBinary (Int.fract x) := by
  obtain ⟨factor, exponent, hfactor, hlow, rfl⟩ := h
  rcases le_or_gt 0 exponent with hle | hlt
  · obtain ⟨power, rfl⟩ := Int.eq_ofNat_of_zero_le hle
    refine ⟨0, 0, by norm_num, by norm_num, ?_⟩
    rw [Nat.cast_zero, zero_mul, zpow_natCast]
    exact_mod_cast Int.fract_natCast (factor * 2 ^ power)
  · obtain ⟨amount, hamount⟩ := Int.exists_eq_neg_ofNat hlt.le
    refine ⟨factor % 2 ^ amount, exponent, (Nat.mod_le _ _).trans_lt hfactor, hlow, ?_⟩
    have hquotient : (factor : ℚ) * 2 ^ exponent = (factor : ℚ) / (2 ^ amount : ℕ) := by
      rw [hamount, zpow_neg, zpow_natCast, ← div_eq_mul_inv, Nat.cast_pow, Nat.cast_ofNat]
    rw [hquotient, Int.fract_div_natCast_eq_div_natCast_mod, hamount, zpow_neg, zpow_natCast,
      ← div_eq_mul_inv, Nat.cast_pow, Nat.cast_ofNat]

end DeskCalculator.Binary
