import DeskCalculator.Decimal.Basic
import DeskCalculator.Proofs.Float.Rounding

/-!
# How floats are stored

A float is stored as a sign, eleven bits of exponent and 52 bits of fraction.
What is unpacked from the bits are the project's `significand` and `scale`
(`unpack_eq`), and what is packed is unpacked again unless its exponent is too
large, where infinity is stored instead (`unpack_pack`, `pack_eq_infinity`).
-/

namespace DeskCalculator.Binary

open Float.Model Float.Model.UnpackedFloat

/-! ## Components -/

private theorem unpackSign_packComponents (sign : Sign) (exponent : BitVec 11)
    (mantissa : BitVec 52) :
    unpackSign (packComponents .binary64 sign exponent mantissa) = sign.toBitVec := by
  ext i hi
  obtain rfl : i = 0 := by omega
  unfold unpackSign packComponents
  rw [BitVec.getElem_cast, ← BitVec.getLsbD_eq_getElem, BitVec.getLsbD_extractLsb,
    BitVec.getLsbD_append, BitVec.getLsbD_append]
  simp [BitVec.getLsbD_eq_getElem]

private theorem ofBitVec_toBitVec (sign : Sign) : Sign.ofBitVec sign.toBitVec = sign := by
  cases sign <;> rfl

/-- The implicit bit stands above the fraction. -/
theorem toNat_implicit (mantissa : BitVec 52) : (1#1 ++ mantissa).toNat = 2 ^ 52 + mantissa.toNat := by
  rw [BitVec.toNat_append, ← Nat.shiftLeft_add_eq_or_of_lt mantissa.isLt]
  rfl

/-- The sign of a float. -/
def sign (v : Float) : Sign := if signBit v then .negative else .positive

private theorem toNat_unpackExponent (v : Float) :
    (@unpackExponent .binary64 v.toModel.toBits.toBitVec).toNat = exponentField v := by
  unfold unpackExponent
  rw [BitVec.toNat_cast, BitVec.extractLsb_toNat]
  rfl

private theorem toNat_unpackMantissa (v : Float) :
    (@unpackMantissa .binary64 v.toModel.toBits.toBitVec).toNat = fractionField v := by
  unfold unpackMantissa
  rw [BitVec.toNat_cast, BitVec.extractLsb_toNat]
  rfl

private theorem ofBitVec_unpackSign (v : Float) :
    Sign.ofBitVec (@unpackSign .binary64 v.toModel.toBits.toBitVec) = sign v := by
  have hbit : (@unpackSign .binary64 v.toModel.toBits.toBitVec).toNat = (signBit v).toNat := by
    unfold unpackSign
    rw [BitVec.toNat_cast, BitVec.extractLsb_toNat, signBit, Nat.toNat_testBit,
      Nat.shiftRight_eq_div_pow]
    rfl
  generalize @unpackSign .binary64 v.toModel.toBits.toBitVec = bit at hbit
  unfold sign Sign.ofBitVec
  cases hsign : signBit v with
  | false =>
      rw [hsign] at hbit
      have hzero : bit = 0#1 := BitVec.eq_of_toNat_eq hbit
      rw [if_pos hzero]
      rfl
  | true =>
      rw [hsign] at hbit
      have hone : bit = 1#1 := BitVec.eq_of_toNat_eq hbit
      rw [hone]
      rfl

/-! ## What is unpacked -/

theorem finite_congr {sign : Sign} {m n : ℕ} {d e : ℤ} (hm : m = n) (he : d = e) (hpos : 0 < m) :
    UnpackedFloat.finite sign m d hpos = .finite sign n e (hm ▸ hpos) := by
  subst hm he
  rfl

/-- Unpacking gives the significand and the scale. -/
theorem unpack_eq (v : Float) : v.toModel.unpack =
    if exponentField v = 2047 then
      if fractionField v = 0 then .infinity (sign v) else .notANumber
    else if h : significand v = 0 then .zero (sign v)
    else .finite (sign v) (significand v) (scale v) (Nat.pos_of_ne_zero h) := by
  have hexponent := toNat_unpackExponent v
  have hmantissa := toNat_unpackMantissa v
  have hfull : @unpackExponent .binary64 v.toModel.toBits.toBitVec = -1#11 ↔
      exponentField v = 2047 := by
    rw [← hexponent, ← BitVec.toNat_inj]
    rfl
  have hempty : @unpackExponent .binary64 v.toModel.toBits.toBitVec = 0#11 ↔
      exponentField v = 0 := by
    rw [← hexponent, ← BitVec.toNat_inj]
    rfl
  have hfraction : @unpackMantissa .binary64 v.toModel.toBits.toBitVec = 0#52 ↔
      fractionField v = 0 := by
    rw [← hmantissa, ← BitVec.toNat_inj]
    rfl
  unfold Float.Model.unpack UnpackedFloat.unpack
  dsimp only
  rw [ofBitVec_unpackSign]
  by_cases hinfinite : exponentField v = 2047
  · rw [if_pos hinfinite, if_pos (hfull.2 hinfinite)]
    by_cases hzero : fractionField v = 0
    · rw [if_pos hzero, if_pos (hfraction.2 hzero)]
    · rw [if_neg hzero, if_neg (mt hfraction.1 hzero)]
  · rw [if_neg hinfinite, if_neg (mt hfull.1 hinfinite)]
    by_cases hsmall : exponentField v = 0
    · have hsignificand : significand v = fractionField v := if_pos hsmall
      rw [if_pos (hempty.2 hsmall)]
      by_cases hzero : fractionField v = 0
      · rw [dif_pos (hsignificand.trans hzero), dif_pos (hfraction.2 hzero)]
      · rw [dif_neg (mt hfraction.1 hzero), dif_neg (hsignificand.trans_ne hzero)]
        refine finite_congr (hmantissa.trans hsignificand.symm) ?_ _
        rw [hexponent, scale, hsmall]
        rfl
    · have hsignificand : significand v = 2 ^ 52 + fractionField v := if_neg hsmall
      rw [if_neg (mt hempty.1 hsmall), dif_neg (by omega)]
      refine finite_congr ?_ ?_ _
      · rw [toNat_implicit, hmantissa, hsignificand]
      · rw [hexponent, scale]
        show (exponentField v : ℤ) - (1023 + 52) = max (exponentField v : ℤ) 1 - 1075
        omega

/-! ## What is packed -/

/-- Whether an unpacked float is written with the bits that it is stored with. -/
def IsStored : UnpackedFloat → Prop
  | .finite _ mantissa exponent _ => mantissa < 2 ^ 53 ∧ -1074 ≤ exponent ∧ exponent ≤ 971 ∧
      (2 ^ 52 ≤ mantissa ∨ exponent = -1074)
  | _ => True

theorem toNat_pos_of_ne_zero {mantissa : BitVec 52} (h : mantissa ≠ 0#52) : 0 < mantissa.toNat := by
  rw [BitVec.toNat_pos, BitVec.pos_iff_ne_zero]
  exact h

theorem implicit_pos (mantissa : BitVec 52) : 0 < 2 ^ 52 + mantissa.toNat :=
  Nat.add_pos_left (Nat.two_pow_pos 52) _

theorem unpack_packComponents (s : Sign) (exponent : BitVec 11) (mantissa : BitVec 52)
    (hfinite : exponent ≠ -1#11) :
    UnpackedFloat.unpack .binary64 (packComponents .binary64 s exponent mantissa) =
      if exponent = 0#11 then
        if h : mantissa = 0#52 then .zero s
        else .finite s mantissa.toNat (-1074) (toNat_pos_of_ne_zero h)
      else .finite s (2 ^ 52 + mantissa.toNat) (exponent.toNat - 1075) (implicit_pos mantissa) := by
  unfold UnpackedFloat.unpack
  simp only [unpackExponent_packComponents, unpackMantissa_packComponents,
    unpackSign_packComponents, ofBitVec_toBitVec, hfinite, if_false]
  split_ifs with hempty hzero
  · rfl
  · refine finite_congr rfl ?_ _
    rw [hempty]
    rfl
  · refine finite_congr (toNat_implicit mantissa) ?_ _
    rfl

/-- The exponent as it is stored. -/
def biased (exponent : ℤ) : ℕ := (exponent + 1075).toNat

theorem pack_eq (s : Sign) (mantissa : ℕ) (exponent : ℤ) (hpos : 0 < mantissa) :
    UnpackedFloat.pack .binary64 (.finite s mantissa exponent hpos) =
      if 2047 ≤ biased exponent then packedInfinity .binary64 s
      else if Nat.log 2 mantissa = 52 then
        packComponents .binary64 s (BitVec.ofNat 11 (biased exponent)) (BitVec.ofNat 52 mantissa)
      else packComponents .binary64 s 0#11 (BitVec.ofNat 52 mantissa) := by
  have hbiased : (exponent + Format.binary64.exponentBias +
      Format.binary64.mantissaBitsWithoutImplicit).toNat = biased exponent := by
    show (exponent + 1023 + 52).toNat = (exponent + 1075).toNat
    rw [add_assoc]
    rfl
  unfold UnpackedFloat.pack
  dsimp only
  rw [hbiased, Nat.log2_eq_log_two]
  refine if_congr ?_ rfl (if_congr ?_ rfl rfl)
  · show 2048 ≤ biased exponent + 1 ↔ _
    omega
  · show Nat.log 2 mantissa + 1 = 53 ↔ _
    omega

theorem unpack_pack_normal {s : Sign} {mantissa : ℕ} {exponent : ℤ} (hpos : 0 < mantissa)
    (hfull : 2 ^ 52 ≤ mantissa) (hmantissa : mantissa < 2 ^ 53) (hlow : -1074 ≤ exponent)
    (hhigh : exponent ≤ 971) :
    UnpackedFloat.unpack .binary64 (UnpackedFloat.pack .binary64 (.finite s mantissa exponent hpos)) =
      .finite s mantissa exponent hpos := by
  have hbiased : biased exponent = exponent + 1075 := Int.toNat_of_nonneg (by omega)
  have hlog : Nat.log 2 mantissa = 52 := by
    rw [Nat.log_eq_iff (by norm_num)]
    exact ⟨hfull, hmantissa⟩
  have hexponent : (BitVec.ofNat 11 (biased exponent)).toNat = biased exponent := by
    rw [BitVec.toNat_ofNat]
    omega
  have hwhole : 2 ^ 52 + (BitVec.ofNat 52 mantissa).toNat = mantissa := by
    rw [BitVec.toNat_ofNat]
    omega
  have hinfinite : BitVec.ofNat 11 (biased exponent) ≠ -1#11 := by
    rw [ne_eq, ← BitVec.toNat_inj, hexponent]
    show biased exponent ≠ 2047
    omega
  have hempty : BitVec.ofNat 11 (biased exponent) ≠ 0#11 := by
    rw [ne_eq, ← BitVec.toNat_inj, hexponent]
    show biased exponent ≠ 0
    omega
  rw [pack_eq, if_neg (by omega), if_pos hlog, unpack_packComponents _ _ _ hinfinite, if_neg hempty]
  refine finite_congr hwhole ?_ _
  rw [hexponent]
  omega

theorem unpack_pack_subnormal {s : Sign} {mantissa : ℕ} (hpos : 0 < mantissa)
    (hmantissa : mantissa < 2 ^ 52) :
    UnpackedFloat.unpack .binary64 (UnpackedFloat.pack .binary64 (.finite s mantissa (-1074) hpos)) =
      .finite s mantissa (-1074) hpos := by
  have hbiased : biased (-1074) = 1 := rfl
  have hlog : Nat.log 2 mantissa ≠ 52 := by
    have hlt := Nat.log_lt_of_lt_pow hpos.ne' hmantissa
    omega
  have hrest : (BitVec.ofNat 52 mantissa).toNat = mantissa := by
    rw [BitVec.toNat_ofNat]
    omega
  have hzero : BitVec.ofNat 52 mantissa ≠ 0#52 := by
    rw [ne_eq, ← BitVec.toNat_inj, hrest]
    exact hpos.ne'
  rw [pack_eq, if_neg (by omega), if_neg hlog, unpack_packComponents _ _ _ (by decide), if_pos rfl,
    dif_neg hzero]
  exact finite_congr hrest rfl _

theorem unpack_pack_finite {s : Sign} {mantissa : ℕ} {exponent : ℤ} {hpos : 0 < mantissa}
    (h : IsStored (.finite s mantissa exponent hpos)) :
    (Float.Model.pack (.finite s mantissa exponent hpos)).unpack =
      .finite s mantissa exponent hpos := by
  obtain ⟨hmantissa, hlow, hhigh, hnormal⟩ := h
  by_cases hfull : 2 ^ 52 ≤ mantissa
  · exact unpack_pack_normal hpos hfull hmantissa hlow hhigh
  · obtain rfl := hnormal.resolve_left hfull
    exact unpack_pack_subnormal hpos (not_le.1 hfull)

/-- What is packed is unpacked again. -/
theorem unpack_pack {u : UnpackedFloat} (h : IsStored u) : (Float.Model.pack u).unpack = u := by
  cases u with
  | infinity s => cases s <;> rfl
  | notANumber => rfl
  | zero s => cases s <;> rfl
  | finite s mantissa exponent hpos => exact unpack_pack_finite h

/-- Infinity is stored in place of what is too large. -/
theorem pack_eq_infinity {s : Sign} {mantissa : ℕ} {exponent : ℤ} {hpos : 0 < mantissa}
    (h : 972 ≤ exponent) :
    Float.Model.pack (.finite s mantissa exponent hpos) = Float.Model.pack (.infinity s) := by
  have hbiased : biased exponent = exponent + 1075 := Int.toNat_of_nonneg (by omega)
  have hbits : UnpackedFloat.pack .binary64 (.finite s mantissa exponent hpos) =
      UnpackedFloat.pack .binary64 (.infinity s) := by
    rw [pack_eq, if_pos (by omega)]
    rfl
  unfold Float.Model.pack
  simp only [hbits]

private theorem fractionField_lt (v : Float) : fractionField v < 2 ^ 52 := Nat.mod_lt _ (by decide)

private theorem exponentField_lt (v : Float) : exponentField v < 2048 := Nat.mod_lt _ (by decide)

/-- The significand and the scale are written with the bits that they are stored with. -/
theorem isStored_significand {v : Float} (hfinite : exponentField v ≠ 2047)
    (hpos : 0 < significand v) (s : Sign) : IsStored (.finite s (significand v) (scale v) hpos) := by
  have hfraction := fractionField_lt v
  have hexponent := exponentField_lt v
  show significand v < 2 ^ 53 ∧ -1074 ≤ scale v ∧ scale v ≤ 971 ∧
    (2 ^ 52 ≤ significand v ∨ scale v = -1074)
  have hshift : 1 <<< 52 = 2 ^ 52 := rfl
  unfold significand scale
  split_ifs with hsmall
  · rw [hsmall]
    omega
  · omega

end DeskCalculator.Binary
