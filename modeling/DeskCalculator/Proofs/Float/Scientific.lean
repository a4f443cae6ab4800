import DeskCalculator.Proofs.Float.Magnitude

/-!
# Floats from decimals

A float that is written in decimal is the one nearest to the number that is
written (`ofScientific_eq`), whatever the number of digits and the exponent are.
Short decimals are found with one operation on exact floats, and all others in
the model of the floats, which answers at once where the exponent is far out of
range.
-/

namespace DeskCalculator.Binary

open Float.Model Float.Model.UnpackedFloat

/-! ## Powers of ten -/

/-- What a table entry is checked for: it is positive, and its bits give a power of ten. -/
theorem powersOfTen_checked : ∀ e : Fin Float.exactlyRepresentablePowersOfTen.size,
    let v := Float.exactlyRepresentablePowersOfTen[e]
    v.isFinite = true ∧ signBit v = false ∧ 0 < significand v ∧ -52 ≤ scale v ∧
      significand v * 2 ^ (scale v + 52).toNat = 10 ^ e.val * 2 ^ 52 := by
  decide +kernel

theorem denotes_powersOfTen {e : ℕ} (h : e < Float.exactlyRepresentablePowersOfTen.size) :
    Denotes Float.exactlyRepresentablePowersOfTen[e] (10 ^ e) := by
  obtain ⟨hfinite, hsign, hpos, hscale, hbits⟩ := powersOfTen_checked ⟨e, h⟩
  dsimp only [Fin.getElem_fin] at hfinite hsign hpos hscale hbits
  generalize Float.exactlyRepresentablePowersOfTen[e] = v at *
  have hvalue : magnitude v = 10 ^ e := by
    have hcast : (significand v : ℚ) * 2 ^ ((scale v + 52).toNat : ℤ) = 10 ^ e * 2 ^ (52 : ℤ) := by
      exact_mod_cast hbits
    rw [Int.toNat_of_nonneg (by omega), zpow_add₀ (by norm_num), ← mul_assoc] at hcast
    exact mul_right_cancel₀ (by positivity) hcast
  have hpositive : sign v = .positive := by
    rw [sign, hsign]
    rfl
  rw [← hvalue]
  exact denotes_magnitude hfinite ((magnitude_pos_iff v).2 hpos) hpositive

/-! ## Whole numbers -/

theorem toFloat_eq {n : ℕ} (hpos : 0 < n) (hlt : n < 2 ^ 53) :
    n.toUInt64.toFloat = nearestFloat n := by
  have hvalue : n.toUInt64.toNat = n := UInt64.toNat_ofNat_of_lt' (by
    rw [UInt64.size]
    omega)
  show Float.ofModel (.pack (UnpackedFloat.normalize .binary64 (n.toUInt64.toNat : ℤ) 0
    .positive)) = _
  rw [hvalue, normalize_eq (by omega), Int.toNat_natCast, zpow_zero, mul_one]
  rfl

theorem isBinary_natCast {n : ℕ} (hlt : n < 2 ^ 53) : IsBinary n :=
  ⟨n, 0, hlt, by norm_num, by rw [zpow_zero, mul_one]⟩

theorem natCast_lt {n : ℕ} (hlt : n < 2 ^ 53) : (n : ℚ) < 2 ^ (1024 : ℤ) := by
  calc (n : ℚ) < 2 ^ (53 : ℤ) := by exact_mod_cast hlt
    _ ≤ 2 ^ (1024 : ℤ) := zpow_le_zpow_right₀ (by norm_num) (by norm_num)

private theorem denotes_toFloat {n : ℕ} (hpos : 0 < n) (hlt : n < 2 ^ 53) :
    Denotes n.toUInt64.toFloat n := by
  rw [toFloat_eq hpos hlt]
  exact (isBinary_natCast hlt).denotes (by exact_mod_cast hpos) (natCast_lt hlt)

/-! ## Long decimals -/

private theorem le_nearest_of_pow_le {x : ℚ} (hle : 2 ^ (1024 : ℤ) ≤ x) :
    2 ^ (1024 : ℤ) ≤ nearest x :=
  IsBinary.le_nearest ⟨1, 1024, by norm_num, by norm_num, by norm_num⟩ (by positivity) hle

/-- A large exponent gives a number that is too large. -/
theorem le_mul_ten_pow {m : ℕ} (hpos : 0 < m) {e : ℤ} (h : 2048 < e) :
    2 ^ (1024 : ℤ) ≤ (m : ℚ) * 10 ^ e := by
  have hone : (1 : ℚ) ≤ m := by exact_mod_cast hpos
  calc (2 : ℚ) ^ (1024 : ℤ) ≤ 10 ^ (1024 : ℤ) :=
        zpow_le_zpow_left₀ (by norm_num) (by norm_num) (by norm_num)
    _ ≤ 10 ^ e := zpow_le_zpow_right₀ (by norm_num) (by omega)
    _ ≤ m * 10 ^ e := le_mul_of_one_le_left (by positivity) hone

/-- A small exponent gives a number that is rounded to zero. -/
theorem mul_ten_pow_le {m : ℕ} {e : ℤ} (h : e < -(2048 + (Nat.log 2 m : ℤ))) :
    (m : ℚ) * 10 ^ e ≤ 2 ^ (-1075 : ℤ) := by
  have hlog : (m : ℚ) ≤ 2 ^ ((Nat.log 2 m : ℤ) + 1) := by
    exact_mod_cast (Nat.lt_pow_succ_log_self (by norm_num) m).le
  have hten : (10 : ℚ) ^ e ≤ 2 ^ e := by
    have hinverse : (2 : ℚ) ^ (-e) ≤ 10 ^ (-e) :=
      zpow_le_zpow_left₀ (by omega) (by norm_num) (by norm_num)
    have hle := inv_anti₀ (by positivity) hinverse
    rwa [← zpow_neg, ← zpow_neg, neg_neg] at hle
  calc (m : ℚ) * 10 ^ e ≤ 2 ^ ((Nat.log 2 m : ℤ) + 1) * 2 ^ e :=
        mul_le_mul hlog hten (by positivity) (by positivity)
    _ = 2 ^ ((Nat.log 2 m : ℤ) + 1 + e) := by rw [← zpow_add₀ (by norm_num)]
    _ ≤ 2 ^ (-1075 : ℤ) := zpow_le_zpow_right₀ (by norm_num) (by omega)

/-- The model multiplies by a power of ten with a mantissa of 53 further bits. -/
theorem mul_ten_pow_eq {m : ℕ} (hpos : 0 < m) (power : ℕ) (hmantissa : 0 < m <<< 53)
    (hpower : 0 < 10 ^ power) :
    UnpackedFloat.mul .binary64 (.finite .positive (m <<< 53) (-53) hmantissa)
      (.finite .positive (10 ^ power) 0 hpower) = rounded .positive (m * 10 ^ (power : ℤ)) := by
  have hcancel : ((m <<< 53 : ℕ) : ℚ) * 2 ^ (-53 : ℤ) = m := by
    rw [Nat.shiftLeft_eq, Nat.cast_mul, Nat.cast_pow, Nat.cast_ofNat, mul_assoc, ← zpow_natCast,
      ← zpow_add₀ (by norm_num)]
    norm_num
  have hproduct : ((m <<< 53 : ℕ) : ℚ) * 2 ^ (-53 : ℤ) * ((10 ^ power : ℕ) * 2 ^ (0 : ℤ)) =
      m * 10 ^ (power : ℤ) := by
    rw [hcancel, zpow_zero, mul_one, zpow_natCast, Nat.cast_pow, Nat.cast_ofNat]
  have hone : (1 : ℚ) ≤ m * 10 ^ (power : ℤ) := by
    rw [zpow_natCast]
    exact_mod_cast Nat.mul_pos hpos hpower
  have hlog : 0 ≤ Int.log 2 ((m : ℚ) * 10 ^ (power : ℤ)) :=
    (Int.zpow_le_iff_le_log (by norm_num) (by positivity)).1 (by simpa using hone)
  have hunit : (-53 : ℤ) + 0 ≤ unitExponent (m * 10 ^ (power : ℤ)) := by
    unfold unitExponent
    omega
  rw [← hproduct] at hunit ⊢
  exact mul_eq hmantissa hpower hunit

/-- The model divides by a power of ten. -/
theorem div_ten_pow_eq {m : ℕ} (hpos : 0 < m) (power : ℕ) (hpower : 0 < 10 ^ power) :
    UnpackedFloat.div .binary64 (.finite .positive m 0 hpos)
      (.finite .positive (10 ^ power) 0 hpower) = rounded .positive (m * 10 ^ (-(power : ℤ))) := by
  have hquotient : (m : ℚ) * 2 ^ (0 : ℤ) / ((10 ^ power : ℕ) * 2 ^ (0 : ℤ)) =
      m * 10 ^ (-(power : ℤ)) := by
    rw [zpow_zero, mul_one, mul_one, zpow_neg, zpow_natCast, div_eq_mul_inv]
    push_cast
    rfl
  rw [← hquotient]
  exact div_eq hpos hpower 0 0

/-- The model's float of a decimal is the nearest one. -/
theorem model_ofScientific_eq {m : ℕ} (hpos : 0 < m) (e : ℤ) :
    Float.ofModel (.ofScientific m e) = nearestFloat (m * 10 ^ e) := by
  have hvalue : (0 : ℚ) < m * 10 ^ e := by positivity
  unfold Float.Model.ofScientific UnpackedFloat.ofScientific
  rw [dif_neg hpos.ne', Nat.log2_eq_log_two]
  split_ifs with hlarge hsmall hnonneg
  · have hle := @le_mul_ten_pow m hpos e hlarge
    exact (nearestFloat_eq_infinity hvalue (le_nearest_of_pow_le hle)).symm
  · have hle := @mul_ten_pow_le m e hsmall
    exact (nearestFloat_eq_zero hvalue (nearest_eq_zero hvalue.le hle)).symm
  · obtain ⟨power, rfl⟩ := Int.eq_ofNat_of_zero_le hnonneg
    rw [nearestFloat]
    exact congrArg (fun u => Float.ofModel (.pack u)) (mul_ten_pow_eq hpos power _ _)
  · obtain ⟨power, rfl⟩ := Int.exists_eq_neg_ofNat (not_le.1 hnonneg).le
    rw [nearestFloat, ← div_ten_pow_eq hpos power (by positivity)]
    simp only [neg_neg, Int.toNat_natCast]

/-! ## All decimals -/

/-- A float that is written in decimal is the one nearest to the number that is written. -/
theorem ofScientific_eq {m : ℕ} (hpos : 0 < m) (negative : Bool) (e : ℕ) :
    Float.ofScientific m negative e = nearestFloat (m * 10 ^ (if negative then -(e : ℤ) else e)) := by
  unfold Float.ofScientific
  split_ifs with hshort hnegative hnegative
  · have hfirst := denotes_toFloat hpos hshort.1
    have hsecond := denotes_powersOfTen (e := e) (Nat.lt_succ_of_le hshort.2)
    rw [zpow_neg, zpow_natCast, ← div_eq_mul_inv]
    exact hfirst.div hsecond
  · have hfirst := denotes_toFloat hpos hshort.1
    have hsecond := denotes_powersOfTen (e := e) (Nat.lt_succ_of_le hshort.2)
    rw [zpow_natCast]
    exact hfirst.mul hsecond
  · exact model_ofScientific_eq hpos (Int.negOfNat e)
  · exact model_ofScientific_eq hpos e

private theorem model_ofScientific_zero (e : ℤ) :
    Float.ofModel (.ofScientific 0 e) = .ofModel (.pack (.zero .positive)) := by
  unfold Float.Model.ofScientific UnpackedFloat.ofScientific
  rw [dif_pos rfl]

/-- A zero is zero, whatever its exponent is. -/
theorem ofScientific_zero (negative : Bool) (e : ℕ) :
    Float.ofScientific 0 negative e = .ofModel (.pack (.zero .positive)) := by
  unfold Float.ofScientific
  split_ifs with hshort hnegative hnegative
  · exact (denotes_powersOfTen (Nat.lt_succ_of_le hshort.2)).zero_div
  · exact (denotes_powersOfTen (Nat.lt_succ_of_le hshort.2)).zero_mul
  · exact model_ofScientific_zero (Int.negOfNat e)
  · exact model_ofScientific_zero e

theorem ofNat_eq_nearestFloat {n : ℕ} (hpos : 0 < n) : Float.ofNat n = nearestFloat n := by
  have hscientific := ofScientific_eq hpos false 0
  rwa [if_neg Bool.false_ne_true, Nat.cast_zero, zpow_zero, mul_one] at hscientific

/-- The float of a natural number of the format is that number. -/
theorem denotes_ofNat {n : ℕ} (hpos : 0 < n) (hb : IsBinary n) (hlt : (n : ℚ) < 2 ^ (1024 : ℤ)) :
    Denotes (Float.ofNat n) n := by
  rw [ofNat_eq_nearestFloat hpos]
  exact hb.denotes (by exact_mod_cast hpos) hlt

theorem denotes_one : Denotes 1.0 1 := by
  have hone : (1.0 : Float) = nearestFloat 1 := by
    have hscientific := ofScientific_eq (m := 10) (by norm_num) true 1
    norm_num at hscientific
    exact hscientific
  rw [hone]
  exact IsBinary.denotes ⟨1, 0, by norm_num, by norm_num, by norm_num⟩ one_pos
    (one_lt_zpow₀ (by norm_num) (by norm_num))

theorem Denotes.lt {v : Float} {x : ℚ} (h : Denotes v x) : x < 2 ^ (1024 : ℤ) := by
  obtain ⟨mantissa, exponent, -, -, ⟨hbits, -, hhigh, hfull⟩, rfl⟩ := h
  exact (exponent_le_iff hbits hfull).1 hhigh

/-- Subtracting the whole part leaves the fractional part as it is. -/
theorem Denotes.sub_wholePart {v : Float} {x : ℚ} (h : Denotes v x) (hfract : Int.fract x ≠ 0) :
    Denotes (v - Float.ofNat (wholePart v)) (Int.fract x) := by
  have hpos : 0 < Int.fract x := (Int.fract_nonneg x).lt_of_ne' hfract
  have hwhole : (⌊x⌋ : ℚ) = wholePart v := by
    rw [← h.magnitude_eq, ← wholePart_eq, Int.cast_natCast]
  have hsplit : Int.fract x = x - wholePart v := by rw [Int.fract, hwhole]
  rcases Nat.eq_zero_or_pos (wholePart v) with hzero | hpart
  · have hself : Int.fract x = x := by simp [hsplit, hzero]
    have hnothing : Float.ofNat 0 = .ofModel (.pack (.zero .positive)) := ofScientific_zero false 0
    rw [hself, hzero, hnothing]
    exact h.sub_zero
  · have hlt : (wholePart v : ℚ) < x := sub_pos.1 (hsplit ▸ hpos)
    have hfloor : (wholePart v : ℚ) = ⌊x⌋₊ := by
      rw [← hwhole, natCast_floor_eq_intCast_floor h.pos.le]
    have hpart := denotes_ofNat hpart (hfloor ▸ h.isBinary.floor) (hlt.trans h.lt)
    rw [h.sub hpart hlt, ← hsplit]
    exact h.isBinary.fract.denotes hpos
      ((Int.fract_lt_one x).trans_le (one_le_zpow₀ (by norm_num) (by norm_num)))

end DeskCalculator.Binary
