import DeskCalculator.Proofs.Float.Scientific

/-!
# Signs and magnitudes

A finite float is known by its sign and its magnitude: what is unpacked from it
determines it (`unpack_injective`), so a positive float is the one nearest to the
number that it denotes (`Denotes.eq_nearestFloat`), and any float that is not NaN is
its absolute value with its sign (`withSign_abs`).
-/

namespace DeskCalculator.Binary

open Float.Model Float.Model.UnpackedFloat

variable {v : Float}

/-- Different floats are unpacked differently. -/
theorem unpack_injective {v w : Float} (h : v.toModel.unpack = w.toModel.unpack) : v = w := by
  have hbits := (unpack_inj_of_valid v.toModel.valid w.toModel.valid).1 h
  obtain ⟨⟨bits, hvalid⟩⟩ := v
  obtain ⟨⟨bits', hvalid'⟩⟩ := w
  obtain rfl : bits = bits' := UInt64.toBitVec_inj.1 hbits
  rfl

theorem eq_of_toBits_eq {v w : Float} (h : v.toBits = w.toBits) : v = w := by
  refine unpack_injective ?_
  show UnpackedFloat.unpack .binary64 v.toBits.toBitVec = .unpack .binary64 w.toBits.toBitVec
  rw [h]

/-! ## Kinds of floats -/

/-- A finite float is neither of the other two kinds. -/
theorem kind_of_isFinite (h : v.isFinite = true) : v.isNaN = false ∧ v.isInf = false := by
  change v.toModel.unpack.isFinite = true at h
  change v.toModel.unpack.isNaN = false ∧ v.toModel.unpack.isInf = false
  cases hkind : v.toModel.unpack with
  | notANumber | infinity => simp [hkind, UnpackedFloat.isFinite] at h
  | zero | finite => exact ⟨rfl, rfl⟩

theorem isFinite_of_kind (hnan : v.isNaN = false) (hinf : v.isInf = false) :
    v.isFinite = true := by
  change v.toModel.unpack.isNaN = false at hnan
  change v.toModel.unpack.isInf = false at hinf
  show v.toModel.unpack.isFinite = true
  cases hkind : v.toModel.unpack with
  | notANumber => simp [hkind, UnpackedFloat.isNaN] at hnan
  | infinity => simp [hkind, UnpackedFloat.isInf] at hinf
  | zero | finite => rfl

/-- There is one NaN. -/
theorem eq_of_isNaN (h : v.isNaN = true) : v = 0.0 / 0.0 := by
  change v.toModel.unpack.isNaN = true at h
  refine unpack_injective ?_
  cases hkind : v.toModel.unpack with
  | notANumber => rfl
  | infinity | zero | finite => simp [hkind, UnpackedFloat.isNaN] at h

/-- There are two infinities. -/
theorem eq_of_isInf (h : v.isInf = true) : v = 1.0 / 0.0 ∨ v = -1.0 / 0.0 := by
  change v.toModel.unpack.isInf = true at h
  cases hkind : v.toModel.unpack with
  | infinity sign =>
      cases sign with
      | positive => exact .inl (unpack_injective hkind)
      | negative => exact .inr (unpack_injective hkind)
  | notANumber | zero | finite => simp [hkind, UnpackedFloat.isInf] at h

/-! ## Positive floats -/

/-- Where two floats denote one number, they are written with the same bits. -/
theorem Denotes.unique {w : Float} {x : ℚ} (hv : Denotes v x) (hw : Denotes w x) : v = w := by
  obtain ⟨m, d, hm, hunpack, hstored, hx⟩ := hv
  obtain ⟨n, e, hn, hunpack', hstored', hx'⟩ := hw
  obtain ⟨rfl, rfl⟩ := eq_of_isStored hstored hstored' (hx.symm.trans hx')
  exact unpack_injective (hunpack.trans hunpack'.symm)

/-- A positive float is the one nearest to its number. -/
theorem Denotes.eq_nearestFloat {x : ℚ} (h : Denotes v x) : v = nearestFloat x :=
  h.unique (h.isBinary.denotes h.pos h.lt)

/-! ## Zeros -/

/-- A float equals zero if it is one of the two zeros. -/
theorem beq_zero_iff (h : v.isFinite = true) : (v == 0) = true ↔ significand v = 0 := by
  show v.toModel.unpack.beq (.zero .positive) = true ↔ _
  rw [unpack_eq, if_neg ((isFinite_iff v).1 h)]
  split_ifs with hzero
  · exact iff_of_true rfl hzero
  · refine iff_of_false ?_ hzero
    cases sign v <;> exact Bool.false_ne_true

theorem abs_eq_zero (h : v.isFinite = true) (hzero : significand v = 0) :
    v.abs = .ofModel (.pack (.zero .positive)) := by
  refine unpack_injective ?_
  rw [unpack_abs, unpack_eq, if_neg ((isFinite_iff v).1 h), dif_pos hzero]
  exact (@unpack_pack (.zero .positive) trivial).symm

/-! ## Signs -/

private theorem lt_zero_iff (h : v.isFinite = true) (hpos : 0 < significand v) :
    v < 0 ↔ sign v = .negative := by
  have hlt : v < 0 ↔ v.toModel.unpack.compare (.zero .positive) = some .lt := by
    show decide (v.toModel < (0 : Float).toModel) = true ↔ _
    rw [decide_eq_true_iff]
    exact beq_iff_eq
  rw [hlt, unpack_eq_finite h hpos]
  cases sign v with
  | positive => exact iff_of_false nofun nofun
  | negative => exact iff_of_true rfl rfl

/-- A float is its absolute value with its sign. -/
theorem withSign_abs (h : v.isFinite = true) : withSign (signBit v) v.abs = v := by
  refine unpack_injective ?_
  have hunpack := unpack_eq v
  rw [if_neg ((isFinite_iff v).1 h)] at hunpack
  unfold withSign
  cases hsign : signBit v with
  | false =>
      have hpositive : sign v = .positive := by rw [sign, hsign]; rfl
      rw [if_neg Bool.false_ne_true, unpack_abs, hunpack, hpositive]
      split_ifs <;> rfl
  | true =>
      have hnegative : sign v = .negative := by rw [sign, hsign]; rfl
      rw [if_pos rfl, unpack_neg, unpack_abs, hunpack, hnegative]
      split_ifs <;> rfl

theorem signBit_eq_decide (h : v.isFinite = true) (hpos : 0 < significand v) :
    signBit v = decide (v < 0) := by
  rw [Bool.eq_iff_iff, decide_eq_true_iff, lt_zero_iff h hpos, sign]
  cases signBit v with
  | false => exact iff_of_false Bool.false_ne_true (by rintro ⟨⟩)
  | true => exact iff_of_true rfl rfl

end DeskCalculator.Binary
