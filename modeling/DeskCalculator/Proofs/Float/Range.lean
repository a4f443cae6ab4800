import DeskCalculator.Proofs.Float.Closest
import DeskCalculator.Proofs.Float.Value

/-!
# Results that are finite

A number is rounded to a finite float if it is less than `overflow`, which is the middle between
the largest finite float and the next power of two (`nearest_lt_iff`, `isFinite_pack_rounded`).
Below that bound, what a positive number is rounded to is the nearest one of all finite floats
(`isNearest_nearestFloat`).  Whether a product or a difference of floats is finite can be told from
the exact result (`isFinite_mul`, `isFinite_sub`).
-/

namespace DeskCalculator.Binary

open Float.Model Float.Model.UnpackedFloat

variable {v w : Float} {x : ℚ}

/-! ## The bound -/

/-- The least positive number that is not rounded to a finite float: the middle between the largest
one and the power of two behind it. -/
def overflow : ℚ := (2 ^ 54 - 1 : ℕ) * 2 ^ (970 : ℤ)

theorem overflow_pos : 0 < overflow := by
  unfold overflow
  positivity

/-- The powers of two around the bound. -/
theorem powers_eq : (2 : ℚ) ^ (971 : ℤ) = 2 * 2 ^ (970 : ℤ) ∧
    (2 : ℚ) ^ (1024 : ℤ) = 2 ^ 54 * 2 ^ (970 : ℤ) := by
  constructor
  · rw [← zpow_one_add₀ (by norm_num)]
    rfl
  · rw [← zpow_natCast, ← zpow_add₀ (by norm_num)]
    rfl

/-- The bound is equally far from two numbers of the format, and the upper one is even. -/
theorem nearest_overflow : nearest overflow = 2 ^ (1024 : ℤ) := by
  obtain ⟨hunit, htop⟩ := powers_eq
  have hexponent : unitExponent overflow = 971 := by
    have hlog : Nat.log 2 (2 ^ 54 - 1) = 53 :=
      (Nat.log_eq_iff (.inl (by norm_num))).2 ⟨by norm_num, by norm_num⟩
    rw [overflow, unitExponent_eq (by norm_num), totalExponent_eq, targetExponent_binary64, hlog]
    rfl
  have hquotient : overflow / unit overflow = ((2 ^ 53 - 1 : ℤ) : ℚ) + 1 / 2 := by
    rw [unit, hexponent, overflow, hunit, mul_div_mul_right _ _ (by positivity)]
    norm_num
  have hfloor : ⌊((2 ^ 53 - 1 : ℤ) : ℚ) + 1 / 2⌋ = 2 ^ 53 - 1 := by
    rw [Int.floor_intCast_add, Int.floor_eq_zero_iff.2 ⟨by norm_num, by norm_num⟩, add_zero]
  have hfract : Int.fract (((2 ^ 53 - 1 : ℤ) : ℚ) + 1 / 2) = 1 / 2 := by
    rw [Int.fract, hfloor, add_sub_cancel_left]
  have heven : nearestEven (overflow / unit overflow) = 2 ^ 53 := by
    rw [hquotient, nearestEven, hfloor, hfract, if_neg (by norm_num), if_neg (by norm_num)]
    norm_num
  rw [nearest, heven, unit, hexponent, hunit, htop]
  generalize (2 : ℚ) ^ (970 : ℤ) = power
  push_cast
  ring

/-- A positive number is rounded to one that is not too large if it lies below the bound. -/
theorem nearest_lt_iff (hx : 0 < x) : nearest x < 2 ^ (1024 : ℤ) ↔ x < overflow := by
  constructor
  · intro hlt
    by_contra hle
    have hmono := nearest_mono overflow_pos (not_lt.1 hle)
    rw [nearest_overflow] at hmono
    exact absurd hlt (not_lt.2 hmono)
  · intro hlt
    by_contra hle
    -- the largest finite number would be nearer than what is too large
    have hlargest : IsBinary ((2 ^ 53 - 1 : ℕ) * 2 ^ (971 : ℤ)) :=
      ⟨2 ^ 53 - 1, 971, by norm_num, by norm_num, rfl⟩
    have hpower : (0 : ℚ) < 2 ^ (970 : ℤ) := by positivity
    rw [overflow] at hlt
    rw [powers_eq.2, not_lt] at hle
    rw [powers_eq.1] at hlargest
    generalize (2 : ℚ) ^ (970 : ℤ) = power at hlt hle hlargest hpower
    rcases le_or_gt x ((2 ^ 53 - 1 : ℕ) * (2 * power)) with hbelow | habove
    · have hnearest := hlargest.nearest_le hx hbelow
      push_cast at hnearest
      linarith
    · have hclosest := abs_nearest_sub_le_of_isBinary hx hlargest
      push_cast at hlt habove hclosest
      rw [abs_of_pos (by linarith), abs_of_neg (by linarith)] at hclosest
      linarith

theorem IsBinary.lt_overflow (hb : IsBinary x) (hlt : x < 2 ^ (1024 : ℤ)) : x < overflow := by
  rcases hb.nonneg.eq_or_lt with rfl | hpos
  · exact overflow_pos
  · rwa [← nearest_lt_iff hpos, nearest_of_isBinary hb]

/-- A finite float has a magnitude of the format. -/
theorem isBinary_magnitude (h : v.isFinite = true) : IsBinary (magnitude v) := by
  rcases unpack_cases h with ⟨-, hzero⟩ | ⟨m, e, hm, -, ⟨hbits, hlow, -⟩, hmagnitude⟩
  · rw [hzero]
    exact isBinary_zero
  · exact ⟨m, e, hbits, hlow, hmagnitude⟩

/-- The magnitude of a finite float lies below the bound. -/
theorem magnitude_lt_overflow (h : v.isFinite = true) : magnitude v < overflow := by
  rcases (magnitude_nonneg v).eq_or_lt with hzero | hpos
  · rw [← hzero]
    exact overflow_pos
  · rw [← nearest_lt_iff hpos, nearest_of_isBinary (isBinary_magnitude h)]
    rcases unpack_cases h with ⟨-, hzero⟩ | ⟨m, e, hm, -, ⟨hbits, -, hhigh, hfull⟩, hmagnitude⟩
    · exact absurd hzero hpos.ne'
    · rw [hmagnitude]
      exact (exponent_le_iff hbits hfull).1 hhigh

/-! ## Rounded numbers -/

theorem rounded_zero (s : Sign) : rounded s 0 = .zero s := by
  have hfactor : factor 0 = 0 := by
    rw [factor, zero_div, nearestEven_eq_zero le_rfl (by norm_num)]
    rfl
  rw [rounded, hfactor]
  rfl

/-- A rounded number is stored as it is, or it is too large and infinity is stored. -/
theorem unpack_pack_rounded (hx : 0 ≤ x) (s : Sign) :
    (Float.Model.pack (rounded s x)).unpack =
      if x < overflow then rounded s x else .infinity s := by
  rcases hx.eq_or_lt with rfl | hpos
  · rw [if_pos overflow_pos, rounded_zero, @unpack_pack (.zero s) trivial]
  · have hbound := nearest_lt_iff hpos
    split_ifs with hlt
    · exact unpack_pack (isStored_rounded hpos s (hbound.2 hlt))
    · rw [pack_rounded_eq_infinity hpos s (not_lt.1 (hbound.not.2 hlt)),
        @unpack_pack (.infinity s) trivial]

private theorem isFinite_rounded (s : Sign) (x : ℚ) : (rounded s x).isFinite = true := by
  unfold rounded ofFactor
  split_ifs <;> rfl

/-- A number is rounded to a finite float if it lies below the bound. -/
theorem isFinite_pack_rounded (hx : 0 ≤ x) (s : Sign) :
    (Float.ofModel (.pack (rounded s x))).isFinite = true ↔ x < overflow := by
  show (Float.Model.pack (rounded s x)).unpack.isFinite = true ↔ _
  rw [unpack_pack_rounded hx]
  split_ifs with hlt
  · exact iff_of_true (isFinite_rounded s x) hlt
  · exact iff_of_false nofun hlt

/-- From the bound on, a number is rounded to infinity. -/
theorem nearestFloat_eq_infinity_of_le (hle : overflow ≤ x) : nearestFloat x = infinity := by
  have hx := overflow_pos.trans_le hle
  rw [nearestFloat_eq_infinity hx (not_lt.1 (mt (nearest_lt_iff hx).1 (not_lt.2 hle)))]
  rfl

theorem natCast_lt_overflow {n : ℕ} (h : n < 2 ^ 63) : (n : ℚ) < overflow := by
  have hpower : (2 : ℚ) ^ (63 : ℤ) ≤ 2 ^ (970 : ℤ) :=
    zpow_le_zpow_right₀ (by norm_num) (by norm_num)
  calc (n : ℚ) < 1 * 2 ^ (63 : ℤ) := by exact_mod_cast (by omega : n < 1 * 2 ^ 63)
    _ ≤ overflow := mul_le_mul (by norm_num) hpower (by positivity) (by positivity)

/-- A natural number below the bound is rounded to a finite float. -/
theorem isFinite_ofNat {n : ℕ} (h : n < overflow) : (Float.ofNat n).isFinite = true := by
  rcases Nat.eq_zero_or_pos n with rfl | hpos
  · decide +kernel
  · rw [ofNat_eq_nearestFloat hpos]
    exact (isFinite_pack_rounded (Nat.cast_nonneg n) .positive).2 h

private theorem extent_rounded (hx : 0 ≤ x) (s : Sign) : extent (rounded s x) = nearest x := by
  rcases hx.eq_or_lt with rfl | hpos
  · rw [rounded_zero, nearest_zero]
    rfl
  · rcases rounded_cases hpos s with ⟨hzero, hrounded⟩ | ⟨m, e, hm, hrounded, hnearest, -⟩
    · rw [hrounded, hzero]
      rfl
    · rw [hrounded, ← hnearest]
      rfl

theorem magnitude_pack_rounded (hx : 0 ≤ x) (hlt : x < overflow) (s : Sign) :
    magnitude (.ofModel (.pack (rounded s x))) = nearest x := by
  rw [magnitude_eq ((isFinite_pack_rounded hx s).2 hlt), ← extent_rounded hx s]
  show extent (Float.Model.pack (rounded s x)).unpack = _
  rw [unpack_pack_rounded hx, if_pos hlt]

/-- A number that is rounded keeps its sign, and the significand of the float has the parity of the
number of units. -/
theorem parts_pack_rounded (hx : 0 ≤ x) (hlt : x < overflow) (s : Sign) :
    sign (.ofModel (.pack (rounded s x))) = s ∧
      (factor x % 2 = 0 → significand (.ofModel (.pack (rounded s x))) % 2 = 0) := by
  have hunpack : (Float.ofModel (.pack (rounded s x))).toModel.unpack = rounded s x := by
    show (Float.Model.pack (rounded s x)).unpack = _
    rw [unpack_pack_rounded hx, if_pos hlt]
  generalize Float.ofModel (.pack (rounded s x)) = w at hunpack ⊢
  unfold rounded ofFactor at hunpack
  split_ifs at hunpack
  · obtain ⟨hsign, hsignificand⟩ := parts_of_zero hunpack
    exact ⟨hsign, fun _ => by rw [hsignificand]⟩
  · obtain ⟨hsign, hsignificand⟩ := parts_of_finite hunpack
    exact ⟨hsign, fun heven => by rw [hsignificand, heven]⟩
  · obtain ⟨hsign, hsignificand⟩ := parts_of_finite hunpack
    refine ⟨hsign, fun _ => ?_⟩
    rw [hsignificand]
    rfl

theorem value_pack_rounded (hx : 0 ≤ x) (hlt : x < overflow) (s : Sign) :
    value (.ofModel (.pack (rounded s x))) = signed s (nearest x) := by
  rw [value, (parts_pack_rounded hx hlt s).1, magnitude_pack_rounded hx hlt]

theorem value_nearestFloat (hx : 0 ≤ x) (hlt : x < overflow) : value (nearestFloat x) = nearest x :=
  value_pack_rounded hx hlt .positive

/-! ## Floats that are nearest -/

/-- Whether a float is the nearest one to a number: it is finite, no finite float is nearer, and
where a different one is equally near, its significand is even. -/
structure IsNearest (v : Float) (x : ℚ) : Prop where
  isFinite : v.isFinite = true
  le : ∀ w : Float, w.isFinite = true → |value v - x| ≤ |value w - x|
  even : ∀ w : Float, w.isFinite = true → value w ≠ value v → |value w - x| = |value v - x| →
    significand v % 2 = 0

theorem isNearest_nearestFloat (hx : 0 < x) (hlt : x < overflow) :
    IsNearest (nearestFloat x) x := by
  have hnonneg := nearest_nonneg hx.le
  -- a float is at least as far away as its magnitude is
  have hfar : ∀ w : Float, |magnitude w - x| ≤ |value w - x| := by
    intro w
    have habs := abs_abs_sub_abs_le (value w) x
    rwa [abs_value, abs_of_pos hx] at habs
  have hclosest : ∀ w : Float, w.isFinite = true → |nearest x - x| ≤ |magnitude w - x| :=
    fun w hw => abs_nearest_sub_le_of_isBinary hx (isBinary_magnitude hw)
  refine ⟨(isFinite_pack_rounded hx.le .positive).2 hlt, fun w hw => ?_, fun w hw hne htie => ?_⟩
  · rw [value_nearestFloat hx.le hlt]
    exact (hclosest w hw).trans (hfar w)
  · rw [value_nearestFloat hx.le hlt] at hne htie
    have hequal := le_antisymm ((hfar w).trans_eq htie) (hclosest w hw)
    refine (parts_pack_rounded hx.le hlt .positive).2
      (factor_even hx (isBinary_magnitude hw) ?_ hequal)
    -- otherwise it would be the negative float, which is farther away
    intro hmagnitude
    rcases (abs_eq hnonneg).1 ((abs_value w).trans hmagnitude) with hsame | hopposite
    · exact hne hsame
    · have hzero : nearest x = 0 := by
        rw [hopposite, abs_of_neg (by linarith)] at htie
        rcases abs_cases (nearest x - x) with ⟨habs, -⟩ | ⟨habs, -⟩ <;> linarith
      exact hne (by rw [hopposite, hzero, neg_zero])

theorem value_zero : value (.ofModel (.pack (.zero .positive))) = 0 := by
  have hvalue := value_pack_rounded le_rfl overflow_pos .positive
  rwa [rounded_zero, nearest_zero, signed_zero] at hvalue

theorem zero_eq : (0.0 : Float) = 0 := by decide +kernel

theorem neg_iff_value_neg (h : v.isFinite = true) : v < 0 ↔ value v < 0 := by
  have hzero : (0 : Float).isFinite = true ∧ value 0 = 0 := ⟨by decide +kernel, value_zero⟩
  rw [lt_iff h hzero.1, hzero.2]

theorem pos_iff_value_pos (h : v.isFinite = true) : 0 < v ↔ 0 < value v := by
  have hzero : (0 : Float).isFinite = true ∧ value 0 = 0 := ⟨by decide +kernel, value_zero⟩
  rw [lt_iff hzero.1 h, hzero.2]

theorem isNearest_zero : IsNearest (.ofModel (.pack (.zero .positive))) 0 := by
  refine ⟨rfl, fun w _ => ?_, fun w _ hne htie => ?_⟩
  · rw [value_zero, sub_zero, abs_zero]
    exact abs_nonneg _
  · rw [value_zero, sub_zero, sub_zero, abs_zero] at htie
    exact absurd ((abs_nonpos_iff.1 htie.le).trans value_zero.symm) hne

/-- Turning both signs keeps a float the nearest one. -/
theorem IsNearest.neg (h : IsNearest v x) : IsNearest (-v) (-x) := by
  have hreflect : ∀ w : Float, w.isFinite = true → |value w - -x| = |value (-w) - x| := by
    intro w hw
    rw [value_neg hw, abs_sub_neg_eq]
  have hneg : ∀ w : Float, w.isFinite = true → (-w).isFinite = true := by
    intro w hw
    rwa [isFinite_neg]
  have hdistance : |value (-v) - -x| = |value v - x| := by
    rw [value_neg h.isFinite, abs_sub_neg_eq, neg_neg]
  refine ⟨hneg v h.isFinite, fun w hw => ?_, fun w hw hne htie => ?_⟩
  · rw [hdistance, hreflect w hw]
    exact h.le (-w) (hneg w hw)
  · rw [hdistance, hreflect w hw] at htie
    rw [(parts_neg h.isFinite).2]
    refine h.even (-w) (hneg w hw) ?_ htie
    rw [value_neg hw]
    rw [value_neg h.isFinite] at hne
    exact fun hvalue => hne (by rw [← hvalue, neg_neg])

/-- A finite float is the nearest one to its own number. -/
theorem isNearest_value (h : v.isFinite = true) : IsNearest v (value v) := by
  refine ⟨h, fun w _ => ?_, fun w _ hne htie => ?_⟩
  · rw [sub_self, abs_zero]
    exact abs_nonneg _
  · rw [sub_self, abs_zero] at htie
    exact absurd (sub_eq_zero.1 (abs_nonpos_iff.1 htie.le)) hne

/-- A nearest float is as near as rounding brings it. -/
theorem IsNearest.distance_le (h : IsNearest v x) (hlt : |x| < overflow) :
    |value v - x| ≤ abs (nearest |x| - |x|) := by
  have hfinite : (nearestFloat |x|).isFinite = true :=
    (isFinite_pack_rounded (abs_nonneg x) .positive).2 hlt
  have hvalue := value_nearestFloat (abs_nonneg x) hlt
  generalize hmagnitude : |x| = y at *
  rcases le_total 0 x with hx | hx
  · rw [abs_of_nonneg hx] at hmagnitude
    subst hmagnitude
    have hle := h.le _ hfinite
    rwa [hvalue] at hle
  · rw [abs_of_nonpos hx] at hmagnitude
    subst hmagnitude
    have hle := h.neg.le _ hfinite
    rwa [hvalue, value_neg h.isFinite, ← neg_sub', abs_neg] at hle

/-! ## Products and differences -/

theorem isFinite_unpack_pack {u : UnpackedFloat} (h : IsStored u) :
    (Float.Model.pack u).unpack.isFinite = u.isFinite := by
  rw [unpack_pack h]

/-- A product is the exact one, rounded. -/
theorem mul_eq_pack_rounded (hv : v.isFinite = true) (hw : w.isFinite = true) :
    v * w = .ofModel (.pack (rounded (sign v * sign w) (magnitude v * magnitude w))) := by
  show Float.ofModel (.pack (UnpackedFloat.mul .binary64 v.toModel.unpack w.toModel.unpack)) = _
  rcases unpack_cases hv with ⟨hunpack, hvalue⟩ | ⟨m, d, hm, hunpack, hstored, hvalue⟩ <;>
    rcases unpack_cases hw with ⟨hunpack', hvalue'⟩ | ⟨n, e, hn, hunpack', hstored', hvalue'⟩ <;>
    rw [hunpack, hunpack', hvalue, hvalue']
  · rw [zero_mul, rounded_zero]
    rfl
  · rw [zero_mul, rounded_zero]
    rfl
  · rw [mul_zero, rounded_zero]
    rfl
  · rw [mul_eq hm hn (exponent_add_le hstored hstored')]

theorem abs_mul_value (v w : Float) : |value v * value w| = magnitude v * magnitude w := by
  rw [abs_mul, abs_value, abs_value]

/-- A product is finite if the exact one lies below the bound. -/
theorem isFinite_mul (hv : v.isFinite = true) (hw : w.isFinite = true) :
    (v * w).isFinite = true ↔ |value v * value w| < overflow := by
  rw [mul_eq_pack_rounded hv hw, abs_mul_value]
  exact isFinite_pack_rounded (mul_nonneg (magnitude_nonneg v) (magnitude_nonneg w)) _

theorem magnitude_mul (hv : v.isFinite = true) (hw : w.isFinite = true)
    (hlt : |value v * value w| < overflow) : magnitude (v * w) = nearest |value v * value w| := by
  rw [abs_mul_value] at hlt ⊢
  rw [mul_eq_pack_rounded hv hw]
  exact magnitude_pack_rounded (mul_nonneg (magnitude_nonneg v) (magnitude_nonneg w)) hlt _

/-- A mantissa with a sign is its number, rounded. -/
theorem exists_normalize_eq (mantissa exponent : ℤ) (s : Sign) :
    ∃ t, signed t |(mantissa * 2 ^ exponent : ℚ)| = mantissa * 2 ^ exponent ∧
      UnpackedFloat.normalize .binary64 mantissa exponent s =
        rounded t |(mantissa * 2 ^ exponent : ℚ)| := by
  have hpower : (0 : ℚ) < 2 ^ exponent := by positivity
  have hmagnitude : |(mantissa * 2 ^ exponent : ℚ)| = mantissa.natAbs * 2 ^ exponent := by
    rw [abs_mul, abs_of_pos hpower, ← Int.cast_abs, Int.abs_eq_natAbs, Int.cast_natCast]
  unfold UnpackedFloat.normalize
  rcases lt_trichotomy mantissa 0 with hneg | rfl | hpos
  · have hnatAbs : (-mantissa).toNat = mantissa.natAbs := by omega
    have hsign : (mantissa * 2 ^ exponent : ℚ) < 0 :=
      mul_neg_of_neg_of_pos (by exact_mod_cast hneg) hpower
    refine ⟨.negative, ?_, ?_⟩
    · rw [abs_of_neg hsign]
      exact neg_neg _
    · rw [hmagnitude, Int.compare_eq_lt.2 hneg, hnatAbs]
      exact round_eq (Int.natAbs_pos.2 hneg.ne) exponent .negative
  · rw [Int.cast_zero, zero_mul, abs_zero]
    exact ⟨s, signed_zero s, (rounded_zero s).symm⟩
  · have hnatAbs : mantissa.toNat = mantissa.natAbs := by omega
    have hsign : (0 : ℚ) < mantissa * 2 ^ exponent := mul_pos (by exact_mod_cast hpos) hpower
    refine ⟨.positive, abs_of_pos hsign, ?_⟩
    rw [hmagnitude, Int.compare_eq_gt.2 hpos, hnatAbs]
    exact round_eq (Int.natAbs_pos.2 hpos.ne') exponent .positive

private theorem signed_mul (s : Sign) (n : ℕ) (x : ℚ) : signed s (n * x) = s.apply n * x := by
  cases s with
  | positive => rfl
  | negative =>
      show -((n : ℚ) * x) = ((-(n : ℤ) : ℤ) : ℚ) * x
      push_cast
      ring

/-- A number that is stored is rounded to itself. -/
theorem rounded_eq_of_isStored {m : ℕ} {e : ℤ} {hm : 0 < m} {s : Sign}
    (hstored : IsStored (.finite s m e hm)) :
    rounded s (m * 2 ^ e) = .finite s m e hm := by
  have hx : (0 : ℚ) < m * 2 ^ e := by positivity
  have hnearest : nearest (m * 2 ^ e) = m * 2 ^ e :=
    nearest_of_isBinary ⟨m, e, hstored.1, hstored.2.1, rfl⟩
  have hlt := (exponent_le_iff hstored.1 hstored.2.2.2).1 hstored.2.2.1
  have hrounded := isStored_rounded hx s (hnearest.trans_lt hlt)
  rcases rounded_cases hx s with ⟨hzero, -⟩ | ⟨n, d, hn, hfinite, hvalue, -⟩
  · exact absurd (hnearest.symm.trans hzero) hx.ne'
  · rw [hfinite] at hrounded ⊢
    obtain ⟨rfl, rfl⟩ :=
      @eq_of_isStored m n hm hn e d hstored hrounded (hnearest.symm.trans hvalue.symm)
    rfl

/-- A difference is the exact one, rounded. -/
theorem exists_sub_eq (hv : v.isFinite = true) (hw : w.isFinite = true) :
    ∃ t, signed t |value v - value w| = value v - value w ∧
      v - w = .ofModel (.pack (rounded t |value v - value w|)) := by
  unfold value
  suffices hsub : ∃ t, signed t |signed (sign v) (magnitude v) - signed (sign w) (magnitude w)| =
        signed (sign v) (magnitude v) - signed (sign w) (magnitude w) ∧
      UnpackedFloat.sub .binary64 v.toModel.unpack w.toModel.unpack =
        rounded t |signed (sign v) (magnitude v) - signed (sign w) (magnitude w)| by
    obtain ⟨t, hsign, ht⟩ := hsub
    exact ⟨t, hsign, congrArg (fun u => Float.ofModel (.pack u)) ht⟩
  rcases unpack_cases hv with ⟨hunpack, hvalue⟩ | ⟨m, d, hm, hunpack, hstored, hvalue⟩ <;>
    rcases unpack_cases hw with ⟨hunpack', hvalue'⟩ | ⟨n, e, hn, hunpack', hstored', hvalue'⟩ <;>
    rw [hvalue, hvalue', hunpack, hunpack']
  · rw [signed_zero, signed_zero, sub_zero, abs_zero]
    cases sign v <;> cases sign w <;> exact ⟨_, signed_zero _, (rounded_zero _).symm⟩
  · rw [signed_zero, zero_sub, abs_neg, abs_signed, abs_of_nonneg (by positivity)]
    exact ⟨-sign w, signed_neg _ _, (rounded_eq_of_isStored (s := -sign w) hstored').symm⟩
  · rw [signed_zero, sub_zero, abs_signed, abs_of_nonneg (by positivity)]
    exact ⟨sign v, rfl, (rounded_eq_of_isStored (s := sign v) hstored).symm⟩
  · have hfirst := mul_decreaseExponent m (min_le_left d e)
    have hsecond := mul_decreaseExponent n (min_le_right d e)
    have hdifference := exists_normalize_eq
      ((sign v).apply (decreaseExponent m d (min d e)).1 -
        (sign w).apply (decreaseExponent n e (min d e)).1) (min d e) .positive
    rwa [Int.cast_sub, sub_mul, ← signed_mul, ← signed_mul, hfirst, hsecond] at hdifference

/-- A difference is finite if the exact one lies below the bound. -/
theorem isFinite_sub (hv : v.isFinite = true) (hw : w.isFinite = true) :
    (v - w).isFinite = true ↔ |value v - value w| < overflow := by
  obtain ⟨t, -, ht⟩ := exists_sub_eq hv hw
  rw [ht]
  exact isFinite_pack_rounded (abs_nonneg _) t

theorem magnitude_sub (hv : v.isFinite = true) (hw : w.isFinite = true)
    (hlt : |value v - value w| < overflow) : magnitude (v - w) = nearest |value v - value w| := by
  obtain ⟨t, -, ht⟩ := exists_sub_eq hv hw
  rw [ht]
  exact magnitude_pack_rounded (abs_nonneg _) hlt t

/-- A difference of the format is exact. -/
theorem value_sub (hv : v.isFinite = true) (hw : w.isFinite = true)
    (hlt : |value v - value w| < overflow) (hb : IsBinary |value v - value w|) :
    value (v - w) = value v - value w := by
  obtain ⟨t, hsign, ht⟩ := exists_sub_eq hv hw
  rw [ht, value_pack_rounded (abs_nonneg _) hlt, nearest_of_isBinary hb, hsign]

/-- Nothing that is not finite becomes finite when it is subtracted. -/
theorem isFinite_sub_of_not_isFinite (hv : v.isFinite = true) (hw : w.isFinite = false) :
    (v - w).isFinite = false := by
  show (Float.Model.pack
    (UnpackedFloat.sub .binary64 v.toModel.unpack w.toModel.unpack)).unpack.isFinite = false
  change w.toModel.unpack.isFinite = false at hw
  cases hkind : w.toModel.unpack with
  | notANumber =>
      rcases unpack_cases hv with ⟨hunpack, -⟩ | ⟨m, e, hm, hunpack, -⟩ <;> rw [hunpack] <;>
        exact @isFinite_unpack_pack .notANumber trivial
  | infinity s =>
      rcases unpack_cases hv with ⟨hunpack, -⟩ | ⟨m, e, hm, hunpack, -⟩ <;> rw [hunpack] <;>
        exact @isFinite_unpack_pack (.infinity (-s)) trivial
  | zero | finite => simp [hkind, UnpackedFloat.isFinite] at hw

end DeskCalculator.Binary
