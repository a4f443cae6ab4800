import DeskCalculator.Proofs.Float.Sign

/-!
# The number that a float is

A finite float is a rational number, its magnitude with its sign (`value`).  Turning the
sign of the float turns that of the number (`value_neg`), and floats are compared as these
numbers are (`le_iff`).
-/

namespace DeskCalculator.Binary

open Float.Model Float.Model.UnpackedFloat

variable {v w : Float} {x : ℚ}

/-- A number with a sign in front of it. -/
def signed (s : Sign) (x : ℚ) : ℚ :=
  match s with
  | .positive => x
  | .negative => -x

/-- The number that a finite float is. -/
def value (v : Float) : ℚ := signed (sign v) (magnitude v)

/-! ## Signs -/

theorem abs_signed (s : Sign) (x : ℚ) : |signed s x| = |x| := by
  cases s with
  | positive => rfl
  | negative => exact abs_neg x

theorem signed_zero (s : Sign) : signed s 0 = 0 := by
  cases s with
  | positive => rfl
  | negative => exact neg_zero

theorem signed_neg (s : Sign) (x : ℚ) : signed (-s) x = -signed s x := by
  cases s with
  | positive => rfl
  | negative => exact (neg_neg x).symm

/-- Distances are the same when both signs are turned. -/
theorem abs_sub_neg_eq (x y : ℚ) : |x - -y| = |-x - y| := by
  rw [← abs_neg]
  congr 1
  ring

theorem abs_value (v : Float) : |value v| = magnitude v := by
  rw [value, abs_signed, abs_of_nonneg (magnitude_nonneg v)]

/-- A finite float is a zero, or it is unpacked into its sign and its magnitude. -/
theorem unpack_cases (h : v.isFinite = true) :
    (v.toModel.unpack = .zero (sign v) ∧ magnitude v = 0) ∨
    ∃ mantissa exponent hpos, v.toModel.unpack = .finite (sign v) mantissa exponent hpos ∧
      IsStored (.finite .positive mantissa exponent hpos) ∧
      magnitude v = mantissa * 2 ^ exponent := by
  have hfield := (isFinite_iff v).1 h
  rcases Nat.eq_zero_or_pos (significand v) with hzero | hpos
  · left
    refine ⟨by rw [unpack_eq, if_neg hfield, dif_pos hzero], ?_⟩
    rw [magnitude, hzero, Nat.cast_zero, zero_mul]
  · exact .inr ⟨_, _, hpos, unpack_eq_finite h hpos, isStored_significand hfield hpos _, rfl⟩

/-- The sign and the significand are what is unpacked. -/
theorem parts_of_finite {s : Sign} {mantissa : ℕ} {exponent : ℤ} {hpos : 0 < mantissa}
    (h : v.toModel.unpack = .finite s mantissa exponent hpos) :
    sign v = s ∧ significand v = mantissa := by
  rw [unpack_eq] at h
  split_ifs at h
  injection h with hsign hsignificand
  exact ⟨hsign, hsignificand⟩

theorem parts_of_zero {s : Sign} (h : v.toModel.unpack = .zero s) :
    sign v = s ∧ significand v = 0 := by
  rw [unpack_eq] at h
  split_ifs at h with _ _ hzero
  injection h with hsign
  exact ⟨hsign, hzero⟩

/-- Turning the sign leaves the significand. -/
theorem parts_neg (h : v.isFinite = true) :
    sign (-v) = -sign v ∧ significand (-v) = significand v := by
  have hneg := unpack_neg v
  rcases unpack_cases h with ⟨hv, -⟩ | ⟨m, e, hm, hv, -⟩ <;> rw [hv] at hneg
  · obtain ⟨hsign, hsignificand⟩ := parts_of_zero hneg
    exact ⟨hsign, hsignificand.trans (parts_of_zero hv).2.symm⟩
  · obtain ⟨hsign, hsignificand⟩ := parts_of_finite hneg
    exact ⟨hsign, hsignificand.trans (parts_of_finite hv).2.symm⟩

theorem value_neg (h : v.isFinite = true) : value (-v) = -value v := by
  rw [value, (parts_neg h).1, magnitude_neg h, signed_neg, value]

theorem Denotes.value_eq (h : Denotes v x) : value v = x := by
  have hmagnitude := h.magnitude_eq
  obtain ⟨m, e, hm, hunpack, -⟩ := h
  rw [value, (parts_of_finite hunpack).1, hmagnitude]
  rfl

theorem value_abs (h : v.isFinite = true) : value v.abs = magnitude v := by
  rcases (magnitude_nonneg v).eq_or_lt with hzero | hpos
  · rw [value, magnitude_abs h, ← hzero, signed_zero]
  · exact (denotes_abs h hpos).value_eq

theorem neg_neg_float (v : Float) : - -v = v := by
  refine unpack_injective ?_
  rw [unpack_neg, unpack_neg]
  cases v.toModel.unpack with
  | notANumber => rfl
  | zero s | infinity s | finite s => cases s <;> rfl

theorem signBit_eq_false (h : sign v = .positive) : signBit v = false := by
  rw [sign] at h
  split_ifs at h with hnegative
  exact Bool.eq_false_iff.2 hnegative

theorem signBit_neg (h : v.isFinite = true) : signBit (-v) = !signBit v := by
  have hsign := (parts_neg h).1
  unfold sign at hsign
  cases hv : signBit v <;> cases hw : signBit (-v) <;> rw [hv, hw] at hsign <;>
    first | rfl | cases hsign

/-! ## Order -/

private theorem compare_zero_signed (s : Sign) (hx : 0 < x) :
    compare 0 (signed s x) = match s with | .positive => .lt | .negative => .gt := by
  cases s with
  | positive => exact compare_lt_iff_lt.2 hx
  | negative => exact compare_gt_iff_gt.2 (neg_neg_of_pos hx)

private theorem compare_signed_zero (s : Sign) (hx : 0 < x) :
    compare (signed s x) 0 = match s with | .positive => .gt | .negative => .lt := by
  cases s with
  | positive => exact compare_gt_iff_gt.2 hx
  | negative => exact compare_lt_iff_lt.2 (neg_neg_of_pos hx)

private theorem compare_neg_neg (x y : ℚ) : compare (-x) (-y) = (compare x y).swap := by
  rcases lt_trichotomy x y with h | rfl | h
  · rw [compare_lt_iff_lt.2 h, compare_gt_iff_gt.2 (neg_lt_neg h)]
    rfl
  · rw [compare_eq_iff_eq.2 rfl, compare_eq_iff_eq.2 rfl]
    rfl
  · rw [compare_gt_iff_gt.2 h, compare_lt_iff_lt.2 (neg_lt_neg h)]
    rfl

/-- Finite floats are compared as the numbers that they are. -/
theorem compare_value (hv : v.isFinite = true) (hw : w.isFinite = true) :
    v.toModel.unpack.compare w.toModel.unpack = some (compare (value v) (value w)) := by
  unfold value
  rcases unpack_cases hv with ⟨hunpack, hvalue⟩ | ⟨m, d, hm, hunpack, hstored, hvalue⟩ <;>
    rcases unpack_cases hw with ⟨hunpack', hvalue'⟩ | ⟨n, e, hn, hunpack', hstored', hvalue'⟩ <;>
    rw [hunpack, hunpack', hvalue, hvalue']
  · rw [signed_zero, signed_zero, compare_eq_iff_eq.2 rfl]
    rfl
  · rw [signed_zero, compare_zero_signed _ (by positivity)]
    cases sign w <;> rfl
  · rw [signed_zero, compare_signed_zero _ (by positivity)]
    cases sign v <;> rfl
  · have hsame := Binary.compare_eq hstored hstored'
    have hx : (0 : ℚ) < m * 2 ^ d := by positivity
    have hy : (0 : ℚ) < n * 2 ^ e := by positivity
    cases sign v with
    | positive =>
        cases sign w with
        | positive => exact congrArg some hsame
        | negative => exact congrArg some (compare_gt_iff_gt.2 ((neg_neg_of_pos hy).trans hx)).symm
    | negative =>
        cases sign w with
        | positive => exact congrArg some (compare_lt_iff_lt.2 ((neg_neg_of_pos hx).trans hy)).symm
        | negative =>
            show some ((compare d e).then (compare m n)).swap = _
            rw [hsame, ← compare_neg_neg]
            rfl

theorem le_iff_compare :
    v ≤ w ↔ (v.toModel.unpack.compare w.toModel.unpack).any (·.isLE) = true := by
  show decide (v.toModel ≤ w.toModel) = true ↔ _
  rw [decide_eq_true_iff]
  rfl

theorem le_iff (hv : v.isFinite = true) (hw : w.isFinite = true) :
    v ≤ w ↔ value v ≤ value w := by
  rw [le_iff_compare, compare_value hv hw, Option.any_some, ← Ordering.ne_gt_iff_isLE]
  exact compare_le_iff_le

/-- No magnitude is below a finite float but that of a finite one. -/
theorem isFinite_of_abs_le (hw : w.isFinite = true) (h : v.abs ≤ w) : v.isFinite = true := by
  rw [le_iff_compare, unpack_abs] at h
  show v.toModel.unpack.isFinite = true
  cases hkind : v.toModel.unpack with
  | notANumber =>
      rw [hkind] at h
      cases h
  | infinity s =>
      rcases unpack_cases hw with ⟨hunpack, -⟩ | ⟨m, e, hm, hunpack, -⟩ <;>
        rw [hkind, hunpack] at h <;> cases h
  | zero | finite => rfl

theorem lt_iff (hv : v.isFinite = true) (hw : w.isFinite = true) : v < w ↔ value v < value w := by
  have hlt : v < w ↔ v.toModel.unpack.compare w.toModel.unpack = some .lt := by
    show decide (v.toModel < w.toModel) = true ↔ _
    rw [decide_eq_true_iff]
    exact beq_iff_eq
  rw [hlt, compare_value hv hw, Option.some_inj]
  exact compare_lt_iff_lt

theorem beq_iff (hv : v.isFinite = true) (hw : w.isFinite = true) :
    (v == w) = true ↔ value v = value w := by
  have hbeq : (v == w) = true ↔ v.toModel.unpack.compare w.toModel.unpack = some .eq := by
    show v.toModel.unpack.beq w.toModel.unpack = true ↔ _
    exact beq_iff_eq
  rw [hbeq, compare_value hv hw, Option.some_inj]
  exact compare_eq_iff_eq

end DeskCalculator.Binary
