import DeskCalculator.Proofs.Expr.Totality
import DeskCalculator.Proofs.Float.Error

/-!
# Arrangements and choices

`nPr` and `nCr` are quotients of factorials, and these are products of floats.  So how good they
are depends on the number `n` of things alone (`choices_of_whole`):

* up to 22 things they are exact, since `22!` and everything that divides it are floats;
* up to 170 things they are finite, and the relative error is at most `(n + 1) * 2 ^ -51`, one
  rounding for each operation;
* for more things `n!` is infinite, so neither is finite, however small the exact number is.

## Strategy

`multiplied` is followed factor by factor.  Up to `170!` a product has at most one rounding for
each factor (`exists_denotes_multiplied`); the next factor makes it infinite
(`multiplied_eq_infinity`).
-/

namespace DeskCalculator

open Binary Float.Model

variable {v w product every chosen rest : Float} {m n r j k factor count : ℕ} {x y : ℚ}
  {exact exact' : Prop}

/-! ## Whole numbers -/

/-- Whether a float is this natural number. -/
def IsNatural (v : Float) (n : ℕ) : Prop := v.isFinite = true ∧ value v = n

namespace IsNatural

variable (h : IsNatural v n)
include h

theorem magnitude_eq : magnitude v = n := by
  rw [← abs_value, h.2, Nat.abs_cast]

theorem wholePart_eq : wholePart v = n := by
  have hfloor := Binary.wholePart_eq v
  rw [h.magnitude_eq, Int.floor_natCast] at hfloor
  exact_mod_cast hfloor

theorem isWhole : isWhole v = true := by
  rw [isWhole_iff h.1, h.magnitude_eq, Int.fract_natCast]

theorem not_neg : ¬ v < 0 := by
  rw [neg_iff_value_neg h.1, h.2, not_lt]
  exact Nat.cast_nonneg n

theorem lt_iff (h' : IsNatural w r) : v < w ↔ n < r := by
  rw [Binary.lt_iff h.1 h'.1, h.2, h'.2, Nat.cast_lt]

theorem beq_iff (h' : IsNatural w r) : (v == w) = true ↔ n = r := by
  rw [Binary.beq_iff h.1 h'.1, h.2, h'.2, Nat.cast_inj]

end IsNatural

theorem isNatural_ofNat (hn : n < 2 ^ 53) : IsNatural (Float.ofNat n) n := by
  rcases Nat.eq_zero_or_pos n with rfl | hpos
  · exact ⟨by decide +kernel, value_zero.trans Nat.cast_zero.symm⟩
  · have hdenotes := denotes_ofNat hpos (isBinary_natCast hn) (natCast_lt hn)
    exact ⟨hdenotes.isFinite, hdenotes.value_eq⟩

theorem isNatural_zero : IsNatural 0.0 0 := by
  rw [zero_eq]
  exact isNatural_ofNat (by norm_num)

private theorem isNatural_one : IsNatural 1.0 1 := by
  rw [show (1.0 : Float) = Float.ofNat 1 by decide +kernel]
  exact isNatural_ofNat (by norm_num)

/-- The difference of natural numbers is exact. -/
theorem IsNatural.sub (h : IsNatural v n) (h' : IsNatural w r) (hle : r ≤ n) (hn : n < 2 ^ 53) :
    IsNatural (v - w) (n - r) := by
  have hdifference : value v - value w = (n - r : ℕ) := by rw [h.2, h'.2, Nat.cast_sub hle]
  have habs : |value v - value w| = (n - r : ℕ) := by rw [hdifference, Nat.abs_cast]
  have hsmall : n - r < 2 ^ 53 := (Nat.sub_le n r).trans_lt hn
  have hlt : |value v - value w| < overflow := by
    rw [habs]
    exact (isBinary_natCast hsmall).lt_overflow (natCast_lt hsmall)
  refine ⟨(isFinite_sub h.1 h'.1).2 hlt, ?_⟩
  rw [value_sub h.1 h'.1 hlt (by rw [habs]; exact isBinary_natCast hsmall), hdifference]

/-- Natural numbers can be chosen from. -/
theorem isChoice_of_isNatural (h : IsNatural v n) (h' : IsNatural w r) (hle : r ≤ n) :
    isChoice v w = true := by
  have hlt : ¬ v < w := by
    rw [h.lt_iff h']
    exact not_lt.2 hle
  simp [isChoice, zero_eq, hlt, h.not_neg, h'.not_neg, h.isWhole, h'.isWhole]

/-! ## Floats near whole numbers -/

/-- Whether a float is a number within so many roundings of a natural number, and that number
itself under a condition. -/
def IsNear (v : Float) (roundings n : ℕ) (exact : Prop) : Prop :=
  ∃ z, Denotes v z ∧ Within roundings z n ∧ (exact → z = n)

theorem IsNear.imp (h : IsNear v k n exact) (hexact : exact' → exact) : IsNear v k n exact' := by
  obtain ⟨z, hdenotes, hwithin, hequal⟩ := h
  exact ⟨z, hdenotes, hwithin, hequal ∘ hexact⟩

theorem isNear_ofNat (hpos : 0 < n) (hn : n < 2 ^ 53) : IsNear (Float.ofNat n) 0 n exact :=
  ⟨n, denotes_ofNat hpos (isBinary_natCast hn) (natCast_lt hn), within_self n, fun _ => rfl⟩

/-- Twice `170!` is not too large, but half of `171!` is. -/
theorem factorial_bounds :
    (2 * (170).factorial : ℚ) < overflow ∧ overflow ≤ ((171).factorial / 2 : ℚ) := by
  have hbelow : 2 * (170).factorial < (2 ^ 54 - 1) * 2 ^ 970 := by decide +kernel
  have habove : (2 ^ 54 - 1) * 2 ^ 970 * 2 ≤ (171).factorial := by decide +kernel
  have hoverflow : overflow = ((2 ^ 54 - 1) * 2 ^ 970 : ℕ) := by
    rw [overflow, Nat.cast_mul, Nat.cast_pow 2 970]
    rfl
  rw [hoverflow, le_div_iff₀ (by norm_num)]
  exact ⟨by exact_mod_cast hbelow, by exact_mod_cast habove⟩

/-- What is near a number up to `170!` is rounded to a float that is near it. -/
theorem isNear_nearestFloat (hy : 0 < y) (hwithin : Within k y n) (hpos : 0 < n)
    (hle : n ≤ (170).factorial) (hk : k ≤ 2 ^ 52) (hexact : exact → y = n ∧ IsBinary n) :
    IsNear (nearestFloat y) (k + 1) n exact := by
  obtain ⟨hlow, hhigh⟩ := hwithin.bounds (Nat.cast_nonneg n) hy.le hk
  have hone : (1 : ℚ) ≤ n := by exact_mod_cast hpos
  have hlarge : (n : ℚ) ≤ (170).factorial := by exact_mod_cast hle
  have hnormal : (2 : ℚ) ^ (-1022 : ℤ) ≤ y := by
    calc (2 : ℚ) ^ (-1022 : ℤ) ≤ 2 ^ (-1 : ℤ) := zpow_le_zpow_right₀ (by norm_num) (by norm_num)
      _ = 1 / 2 := by norm_num
      _ ≤ y := by linarith
  have hnearest := hwithin.nearest hnormal
  have hnearestpos : 0 < nearest y :=
    (mul_pos (Nat.cast_pos.2 hpos) (shrinkage_pos (k + 1))).trans_le hnearest.1
  refine ⟨nearest y, denotes_nearestFloat hy hnearestpos ((nearest_lt_iff hy).2 ?_), hnearest, ?_⟩
  · linarith [factorial_bounds.1]
  · intro h
    obtain ⟨rfl, hbinary⟩ := hexact h
    exact nearest_of_isBinary hbinary

theorem IsNear.mul (h : IsNear v j m exact) (h' : IsNear w k n exact) (hm : 0 < m) (hn : 0 < n)
    (hle : m * n ≤ (170).factorial) (hk : j + k ≤ 2 ^ 52)
    (hexact : exact → IsBinary (m * n : ℕ)) : IsNear (v * w) (j + k + 1) (m * n) exact := by
  obtain ⟨y, hv, hy, hequal⟩ := h
  obtain ⟨z, hw, hz, hequal'⟩ := h'
  have hproduct := hy.mul hz (Nat.cast_nonneg m) (Nat.cast_nonneg n) hv.pos.le hw.pos.le
  rw [← Nat.cast_mul] at hproduct
  rw [hv.mul hw]
  refine isNear_nearestFloat (mul_pos hv.pos hw.pos) hproduct (Nat.mul_pos hm hn) hle hk fun h => ?_
  exact ⟨by rw [hequal h, hequal' h, Nat.cast_mul], hexact h⟩

theorem IsNear.div (h : IsNear v j (n * m) exact) (h' : IsNear w k m exact) (hn : 0 < n)
    (hm : 0 < m) (hle : n ≤ (170).factorial) (hk : j + k ≤ 2 ^ 52)
    (hexact : exact → IsBinary n) : IsNear (v / w) (j + k + 1) n exact := by
  obtain ⟨y, hv, hy, hequal⟩ := h
  obtain ⟨z, hw, hz, hequal'⟩ := h'
  have hpos : (0 : ℚ) < m := Nat.cast_pos.2 hm
  have hquotient := hy.div hz (Nat.cast_nonneg _) hpos hv.pos.le hw.pos
  rw [Nat.cast_mul, mul_div_cancel_right₀ _ hpos.ne'] at hquotient
  rw [hv.div hw]
  refine isNear_nearestFloat (div_pos hv.pos hw.pos) hquotient hn hle hk fun h => ?_
  exact ⟨by rw [hequal h, hequal' h, Nat.cast_mul, mul_div_cancel_right₀ _ hpos.ne'], hexact h⟩

/-- The error of such a float, and that there is none under the condition. -/
theorem IsNear.abs_sub_le (h : IsNear v k n exact) (hk : k ≤ 2 ^ 52) :
    v.isFinite = true ∧ 2 ^ 52 * |value v - n| ≤ k * n ∧ (exact → value v = n) := by
  obtain ⟨z, hdenotes, hwithin, hequal⟩ := h
  rw [hdenotes.value_eq]
  exact ⟨hdenotes.isFinite, hwithin.abs_sub_le (Nat.cast_nonneg n) hdenotes.pos.le hk, hequal⟩

/-- What is near a positive number is not zero, so it can be divided by. -/
theorem IsNear.divide_eq (h : IsNear w k n exact) (v : Float) : divide v w = .ok (v / w) := by
  obtain ⟨z, hdenotes, -⟩ := h
  have hne : ¬ (w == 0.0) = true := by
    rw [Binary.beq_iff hdenotes.isFinite isNatural_zero.1, hdenotes.value_eq, isNatural_zero.2]
    exact_mod_cast hdenotes.pos.ne'
  rw [divide, if_neg hne, Arithmetic.divide, if_neg hne]

/-! ## Factorials -/

/-- A product that is finite is multiplied on. -/
theorem multiplied_of_isNear (hfactor : factor ≤ 170)
    (h : IsNear (product * Float.ofNat factor) k n exact) (count : ℕ) :
    multiplied product factor (count + 1) =
      multiplied (product * Float.ofNat factor) (factor + 1) count := by
  obtain ⟨z, hdenotes, -⟩ := h
  rw [multiplied_succ (natCast_lt_overflow (by omega)),
    if_neg (Bool.eq_false_iff.1 (kind_of_isFinite hdenotes.isFinite).2)]

/-- What divides `22!` is a float. -/
theorem isBinary_of_dvd_factorial (h : n ∣ (22).factorial) : IsBinary n := by
  have hsplit : (22).factorial = 2143861251406875 * 2 ^ 19 := by decide
  rw [hsplit] at h
  obtain ⟨odd, power, hodd, hpower, rfl⟩ := Nat.dvd_mul.1 h
  obtain ⟨exponent, -, rfl⟩ := (Nat.dvd_prime_pow Nat.prime_two).1 hpower
  have hle := Nat.le_of_dvd (by norm_num) hodd
  exact ⟨odd, exponent, by omega, by omega, by push_cast; rfl⟩

/-- One more factor of a factorial. -/
theorem IsNear.mul_succ (h : IsNear product factor factor.factorial (factor ≤ 22))
    (hlt : factor < 170) :
    IsNear (product * Float.ofNat (factor + 1)) (factor + 1) (factor + 1).factorial
      (factor + 1 ≤ 22) := by
  have hbefore : IsNear product factor factor.factorial (factor + 1 ≤ 22) :=
    h.imp Nat.le_of_succ_le
  have hnear := hbefore.mul (isNear_ofNat (Nat.succ_pos factor) (by omega))
    (Nat.factorial_pos factor) (Nat.succ_pos factor) ?_ (by omega) ?_
  · rwa [add_zero, mul_comm, ← Nat.factorial_succ] at hnear
  · rw [mul_comm, ← Nat.factorial_succ]
    exact Nat.factorial_le hlt
  · intro hsmall
    rw [mul_comm, ← Nat.factorial_succ]
    exact isBinary_of_dvd_factorial (Nat.factorial_dvd_factorial hsmall)

/-- Up to `170!`, a product is as near as the number of its factors allows; up to `22!` it is
exact. -/
theorem isNear_multiplied (h : IsNear product factor factor.factorial (factor ≤ 22))
    (hle : factor + count ≤ 170) :
    ∃ v, multiplied product (factor + 1) count = .ok v ∧
      IsNear v (factor + count) (factor + count).factorial (factor + count ≤ 22) := by
  induction count generalizing product factor with
  | zero => exact ⟨product, rfl, h⟩
  | succ count ih =>
      have hnext := h.mul_succ (by omega)
      have hrest := ih hnext (by omega)
      rw [multiplied_of_isNear (by omega) hnext]
      rwa [show factor + 1 + count = factor + (count + 1) by omega] at hrest

/-- The factor behind `170!` is one too many. -/
theorem mul_ofNat_eq_infinity (h : IsNear product 170 (170).factorial exact) :
    product * Float.ofNat (170 + 1) = infinity := by
  obtain ⟨z, hdenotes, hwithin, -⟩ := h
  have hfactor : IsNear (Float.ofNat (170 + 1)) 0 (170 + 1) True :=
    isNear_ofNat (by norm_num) (by norm_num)
  obtain ⟨y, hdenotes', hwithin', -⟩ := hfactor
  have hproduct := hwithin.mul hwithin' (Nat.cast_nonneg _) (Nat.cast_nonneg _) hdenotes.pos.le
    hdenotes'.pos.le
  rw [← Nat.cast_mul, mul_comm (Nat.factorial 170), ← Nat.factorial_succ] at hproduct
  have hbounds := hproduct.bounds (Nat.cast_nonneg _)
    (mul_pos hdenotes.pos hdenotes'.pos).le (by norm_num)
  rw [hdenotes.mul hdenotes']
  exact nearestFloat_eq_infinity_of_le
    (factorial_bounds.2.trans ((div_le_iff₀' (by norm_num)).2 hbounds.1))

/-- After `170!`, a product is infinite. -/
theorem multiplied_eq_infinity (h : IsNear product factor factor.factorial (factor ≤ 22))
    (hfactor : factor ≤ 170) (hlarge : 170 < factor + count) :
    multiplied product (factor + 1) count = .ok infinity := by
  induction count generalizing product factor with
  | zero => omega
  | succ count ih =>
      rcases hfactor.lt_or_eq with hlt | rfl
      · have hnext := h.mul_succ hlt
        rw [multiplied_of_isNear hlt hnext]
        exact ih hnext hlt (by omega)
      · rw [multiplied_succ (natCast_lt_overflow (by norm_num)), mul_ofNat_eq_infinity h]
        exact if_pos (by decide +kernel)

/-- Zero and one have their factorial at once, which is what multiplying up gives as well. -/
theorem factorial_of_isNatural (h : IsNatural v n) : factorial v = multiplied 1.0 2 (n - 1) := by
  have hkind : (v.isNaN || v < 0.0 || !isWhole v) = false := by
    rw [(kind_of_isFinite h.1).1, zero_eq, decide_eq_false h.not_neg, h.isWhole]
    rfl
  rw [factorial, hkind, if_neg Bool.false_ne_true, arithmetic_whole h.1, h.wholePart_eq]
  split
  · next hsmall =>
      rw [Bool.or_eq_true, h.beq_iff isNatural_zero, h.beq_iff isNatural_one] at hsmall
      rw [show n - 1 = 0 by omega, multiplied]
  · rfl

theorem isNear_one : IsNear 1.0 1 (1).factorial (1 ≤ 22) :=
  ⟨1, denotes_one, (within_self 1).mono zero_le_one zero_le_one zero_le_one, fun _ => rfl⟩

/-- The factorial of a whole number up to 170. -/
theorem isNear_factorial (h : IsNatural v n) (hle : n ≤ 170) :
    ∃ x, factorial v = .ok x ∧ IsNear x n n.factorial (n ≤ 22) := by
  rw [factorial_of_isNatural h]
  rcases Nat.eq_zero_or_pos n with rfl | hpos
  · exact ⟨1.0, rfl, 1, denotes_one, within_self 1, fun _ => rfl⟩
  · have hmultiplied := isNear_multiplied isNear_one (show 1 + (n - 1) ≤ 170 by omega)
    rwa [show 1 + (n - 1) = n by omega] at hmultiplied

theorem factorial_eq_infinity (h : IsNatural v n) (hlarge : 170 < n) :
    factorial v = .ok infinity := by
  rw [factorial_of_isNatural h]
  exact multiplied_eq_infinity isNear_one (by norm_num) (by omega)

private theorem isFinite_infinity_div (w : Float) : (infinity / w).isFinite = false := by
  have hunpack : infinity.toModel.unpack = .infinity .positive :=
    @unpack_pack (.infinity .positive) trivial
  have hquotient : ∀ u : UnpackedFloat,
      IsStored (UnpackedFloat.div .binary64 (.infinity .positive) u) ∧
        (UnpackedFloat.div .binary64 (.infinity .positive) u).isFinite = false := by
    intro u
    cases u <;> exact ⟨trivial, rfl⟩
  show (Float.Model.pack (UnpackedFloat.div .binary64 infinity.toModel.unpack
    w.toModel.unpack)).unpack.isFinite = false
  obtain ⟨hstored, hinfinite⟩ := hquotient w.toModel.unpack
  rw [hunpack, isFinite_unpack_pack hstored, hinfinite]

/-- Infinity divided by anything is not finite. -/
theorem isFinite_of_divide_infinity (h : divide infinity w = .ok v) : v.isFinite = false := by
  unfold divide at h
  split at h
  · rw [if_neg (by decide +kernel)] at h
    cases h
    cases signBit w <;> decide +kernel
  · next hne =>
      rw [Arithmetic.divide, if_neg hne] at h
      cases h
      exact isFinite_infinity_div w

/-! ## Quotients of factorials -/

section

variable (h : IsNatural v n) (h' : IsNatural w r) (hle : r ≤ n)
include h h' hle

theorem permutations_eq (hevery : factorial v = .ok every) (hrest : factorial (v - w) = .ok rest) :
    permutations v w = divide every rest := by
  rw [permutations, if_pos (isChoice_of_isNatural h h' hle), hevery, hrest]
  rfl

theorem combinations_eq (hevery : factorial v = .ok every) (hchosen : factorial w = .ok chosen)
    (hrest : factorial (v - w) = .ok rest) :
    combinations v w = divide every (chosen * rest) := by
  rw [combinations, if_pos (isChoice_of_isNatural h h' hle), hevery, hchosen, hrest]
  rfl

theorem isNear_permutations (hn : n ≤ 170) :
    ∃ x, permutations v w = .ok x ∧
      IsNear x (n + (n - r) + 1) (n.descFactorial r) (n ≤ 22) := by
  have hsplit := Nat.factorial_mul_descFactorial hle
  have hdvd : n.descFactorial r ∣ n.factorial := ⟨(n - r).factorial, by rw [← hsplit, mul_comm]⟩
  obtain ⟨every, hevery, hfirst⟩ := isNear_factorial h hn
  obtain ⟨rest, hrest, hsecond⟩ :=
    isNear_factorial (h.sub h' hle (by omega)) ((Nat.sub_le n r).trans hn)
  rw [← hsplit, mul_comm] at hfirst
  refine ⟨every / rest, ?_, hfirst.div (hsecond.imp (Nat.sub_le n r).trans)
    (Nat.descFactorial_pos.2 hle) (Nat.factorial_pos _) ?_ (by omega) fun hsmall => ?_⟩
  · rw [permutations_eq h h' hle hevery hrest, hsecond.divide_eq]
  · exact (Nat.le_of_dvd (Nat.factorial_pos n) hdvd).trans (Nat.factorial_le hn)
  · exact isBinary_of_dvd_factorial (hdvd.trans (Nat.factorial_dvd_factorial hsmall))

theorem isNear_combinations (hn : n ≤ 170) :
    ∃ x, combinations v w = .ok x ∧
      IsNear x (n + (r + (n - r) + 1) + 1) (n.choose r) (n ≤ 22) := by
  have hsplit := Nat.choose_mul_factorial_mul_factorial hle
  rw [mul_assoc] at hsplit
  have hproductdvd : r.factorial * (n - r).factorial ∣ n.factorial := ⟨n.choose r, by
    rw [← hsplit, mul_comm]⟩
  have hdvd : n.choose r ∣ n.factorial := ⟨_, hsplit.symm⟩
  obtain ⟨every, hevery, hfirst⟩ := isNear_factorial h hn
  obtain ⟨chosen, hchosen, hsecond⟩ := isNear_factorial h' (hle.trans hn)
  obtain ⟨rest, hrest, hthird⟩ :=
    isNear_factorial (h.sub h' hle (by omega)) ((Nat.sub_le n r).trans hn)
  rw [← hsplit] at hfirst
  have hproduct : IsNear (chosen * rest) (r + (n - r) + 1) (r.factorial * (n - r).factorial)
      (n ≤ 22) := by
    refine (hsecond.imp hle.trans).mul (hthird.imp (Nat.sub_le n r).trans)
      (Nat.factorial_pos r) (Nat.factorial_pos _) ?_ (by omega) fun hsmall => ?_
    · exact (Nat.le_of_dvd (Nat.factorial_pos n) hproductdvd).trans (Nat.factorial_le hn)
    · exact isBinary_of_dvd_factorial (hproductdvd.trans (Nat.factorial_dvd_factorial hsmall))
  refine ⟨every / (chosen * rest), ?_, hfirst.div hproduct (Nat.choose_pos hle)
    (Nat.mul_pos (Nat.factorial_pos r) (Nat.factorial_pos _)) ?_ (by omega) fun hsmall => ?_⟩
  · rw [combinations_eq h h' hle hevery hchosen hrest, hproduct.divide_eq]
  · exact (Nat.le_of_dvd (Nat.factorial_pos n) hdvd).trans (Nat.factorial_le hn)
  · exact isBinary_of_dvd_factorial (hdvd.trans (Nat.factorial_dvd_factorial hsmall))

end

/-- Arrangements and choices of `r` out of `n` things have values, which are exact up to 22 things,
near up to 170 things, and not finite for more. -/
theorem choices_of_whole (h : IsNatural v n) (h' : IsNatural w r) (hle : r ≤ n) (hn : n < 2 ^ 53) :
    ∃ choices arrangements, combinations v w = .ok choices ∧ permutations v w = .ok arrangements ∧
      (n ≤ 22 → IsNatural choices (n.choose r) ∧ IsNatural arrangements (n.descFactorial r)) ∧
      (n ≤ 170 → choices.isFinite = true ∧ arrangements.isFinite = true ∧
        2 ^ 51 * |value choices - n.choose r| ≤ (n + 1) * n.choose r ∧
        2 ^ 51 * |value arrangements - n.descFactorial r| ≤ (n + 1) * n.descFactorial r) ∧
      (170 < n → choices.isFinite = false ∧ arrangements.isFinite = false) := by
  rcases Nat.lt_or_ge 170 n with hlarge | hsmall
  · have hevery := factorial_eq_infinity h hlarge
    obtain ⟨chosen, hchosen⟩ := exists_factorial w
    obtain ⟨rest, hrest⟩ := exists_factorial (v - w)
    obtain ⟨choices, hchoices⟩ := exists_divide infinity (chosen * rest)
    obtain ⟨arrangements, harrangements⟩ := exists_divide infinity rest
    refine ⟨choices, arrangements, ?_, ?_, by omega, by omega, fun _ => ?_⟩
    · rw [combinations_eq h h' hle hevery hchosen hrest, hchoices]
    · rw [permutations_eq h h' hle hevery hrest, harrangements]
    · exact ⟨isFinite_of_divide_infinity hchoices, isFinite_of_divide_infinity harrangements⟩
  · obtain ⟨choices, hchoices, hnear⟩ := isNear_combinations h h' hle hsmall
    obtain ⟨arrangements, harrangements, hnear'⟩ := isNear_permutations h h' hle hsmall
    obtain ⟨hfinite, hbound, hexact⟩ := hnear.abs_sub_le (by omega)
    obtain ⟨hfinite', hbound', hexact'⟩ := hnear'.abs_sub_le (by omega)
    refine ⟨choices, arrangements, hchoices, harrangements, fun hfew => ?_, fun _ => ?_, by omega⟩
    · exact ⟨⟨hfinite, hexact hfew⟩, hfinite', hexact' hfew⟩
    refine ⟨hfinite, hfinite', ?_, ?_⟩
    · have hcount : ((n + (r + (n - r) + 1) + 1 : ℕ) : ℚ) = 2 * (n + 1) := by
        rw [show n + (r + (n - r) + 1) + 1 = 2 * (n + 1) by omega]
        push_cast
        ring
      rw [hcount] at hbound
      linarith
    · have hcount : ((n + (n - r) + 1 : ℕ) : ℚ) ≤ 2 * (n + 1) := by
        exact_mod_cast (by omega : n + (n - r) + 1 ≤ 2 * (n + 1))
      have hsum := hbound'.trans (mul_le_mul_of_nonneg_right hcount (Nat.cast_nonneg _))
      linarith

theorem choices_of_whole_five :
    IsNatural 5 5 ∧ IsNatural 2 2 ∧ 2 ≤ 5 ∧ 5 < 2 ^ 53 ∧
      ∃ choices arrangements, combinations 5 2 = .ok choices ∧ permutations 5 2 = .ok arrangements ∧
        IsNatural choices 10 ∧ IsNatural arrangements 20 := by
  have hfive : IsNatural 5 5 := isNatural_ofNat (by norm_num)
  have htwo : IsNatural 2 2 := isNatural_ofNat (by norm_num)
  obtain ⟨choices, arrangements, hchoices, harrangements, hfew, -⟩ :=
    choices_of_whole hfive htwo (by norm_num) (by norm_num)
  exact ⟨hfive, htwo, by norm_num, by norm_num, choices, arrangements, hchoices, harrangements,
    hfew (by norm_num)⟩

/-- There is one way to choose or arrange none of 171 things, but neither function gives a number.
There are 24 ways to choose one of 24 things, but the function gives less. -/
theorem choices_fail :
    IsNatural 171 171 ∧ IsNatural 0 0 ∧ (171).choose 0 = 1 ∧ (171).descFactorial 0 = 1 ∧
      combinations 171 0 = .ok notANumber ∧ permutations 171 0 = .ok notANumber ∧
      notANumber.isNaN = true ∧
      IsNatural 24 24 ∧ IsNatural 1 1 ∧ (24).choose 1 = 24 ∧
      ∃ choices, combinations 24 1 = .ok choices ∧ ¬ IsNatural choices 24 := by
  have hmany : IsNatural 171 171 := isNatural_ofNat (by norm_num)
  have hnone : IsNatural 0 0 := isNatural_ofNat (by norm_num)
  have hrest : IsNatural (171 - 0) 171 := hmany.sub hnone (by norm_num) (by norm_num)
  have hfew : IsNatural 24 24 := isNatural_ofNat (by norm_num)
  have hevery := factorial_eq_infinity hmany (by norm_num)
  have hrest := factorial_eq_infinity hrest (by norm_num)
  refine ⟨hmany, hnone, by decide, by decide, ?_, ?_, by decide +kernel, hfew,
    isNatural_ofNat (by norm_num), by decide, ?_⟩
  · rw [combinations_eq hmany hnone (by norm_num) hevery (factorial_of_isNatural hnone) hrest]
    decide +kernel
  · rw [permutations_eq hmany hnone (by norm_num) hevery hrest]
    decide +kernel
  · refine ⟨23.999999999999996, by decide +kernel, fun hexact => ?_⟩
    have hless : (23.999999999999996 : Float) < 24 := by decide +kernel
    exact absurd ((hexact.lt_iff hfew).1 hless) (lt_irrefl 24)

end DeskCalculator
