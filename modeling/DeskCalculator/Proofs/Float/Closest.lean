import DeskCalculator.Proofs.Float.Operations

/-!
# Nothing is nearer

`nearest x` is computed as a multiple of the unit around `x`.  This file proves what its
name says: no number of the format is nearer to `x` (`abs_nearest_sub_le_of_isBinary`), and
where another one is equally near, `nearest x` has an even factor (`factor_even`).

Two numbers of the format differ by at least the `2 ^ 53`rd part of either
(`IsBinary.le_mul_abs_sub`).  So what is close enough to such a number is rounded to it
(`nearest_eq_of_abs_sub_lt`).

## Strategy

A number of the format is either a multiple of the unit around `x`, and multiples are
compared by their factors; or it lies below a power of two that is a multiple of that unit
and not above `x` (`IsBinary.eq_mul_unit_or_lt`), and this power of two is nearer.
-/

namespace DeskCalculator.Binary

variable {a b x : ℚ}

/-! ## Integers -/

/-- Every other integer is half away at least. -/
theorem half_le_abs_sub {t : ℚ} {n : ℤ} (hne : n ≠ nearestEven t) : 1 / 2 ≤ |(n : ℚ) - t| := by
  have hapart : (1 : ℚ) ≤ |(n : ℚ) - nearestEven t| := by
    exact_mod_cast Int.one_le_abs (sub_ne_zero.2 hne)
  have hnearest := abs_nearestEven_sub_le t
  have htriangle := abs_sub_le (n : ℚ) t (nearestEven t)
  rw [abs_sub_comm t] at htriangle
  linarith

/-- No integer is nearer. -/
theorem abs_nearestEven_sub_le_of_int (t : ℚ) (n : ℤ) :
    |(nearestEven t : ℚ) - t| ≤ |(n : ℚ) - t| := by
  by_cases heq : n = nearestEven t
  · rw [heq]
  · exact (abs_nearestEven_sub_le t).trans (half_le_abs_sub heq)

/-- Where the nearest integer is half away, it is even. -/
theorem nearestEven_even {t : ℚ} (h : 1 / 2 ≤ |(nearestEven t : ℚ) - t|) :
    nearestEven t % 2 = 0 := by
  have hnonneg := Int.fract_nonneg t
  have hlt := Int.fract_lt_one t
  have hfloor : (⌊t⌋ : ℚ) = t - Int.fract t := by
    rw [Int.fract]
    ring
  unfold nearestEven at h ⊢
  split_ifs at h ⊢ with hbelow habove
  · rw [hfloor, sub_sub_cancel_left, abs_neg, abs_of_nonneg hnonneg] at h
    linarith
  · have hgap : ((⌊t⌋ + 1 : ℤ) : ℚ) - t = 1 - Int.fract t := by
      push_cast
      rw [hfloor]
      ring
    rw [hgap, abs_of_nonneg (by linarith)] at h
    linarith
  · omega

/-! ## Multiples of the unit -/

theorem abs_mul_unit_sub (n : ℤ) (x : ℚ) : |n * unit x - x| = |n - x / unit x| * unit x := by
  have hunit := unit_pos x
  rw [← abs_of_pos hunit, ← abs_mul, abs_of_pos hunit, sub_mul, div_mul_cancel₀ _ hunit.ne']

/-- No multiple of the unit is nearer. -/
theorem abs_nearest_sub_le_of_mul (x : ℚ) (n : ℤ) : |nearest x - x| ≤ |n * unit x - x| := by
  rw [nearest, abs_mul_unit_sub, abs_mul_unit_sub]
  exact mul_le_mul_of_nonneg_right (abs_nearestEven_sub_le_of_int _ n) (unit_pos x).le

/-- A number that is not too small is at least `2 ^ 52` units. -/
theorem mul_unit_le (h : 2 ^ (-1022 : ℤ) ≤ x) : 2 ^ 52 * unit x ≤ x := by
  have hx : 0 < x := lt_of_lt_of_le (by positivity) h
  have hlog : -1022 ≤ Int.log 2 x :=
    (Int.zpow_le_iff_le_log (by norm_num) hx).1 (by exact_mod_cast h)
  refine mul_unit_le_of_unitExponent hx ?_
  unfold unitExponent
  omega

/-- Such a number is rounded by at most its `2 ^ 53`rd part. -/
theorem mul_abs_nearest_sub_le (h : 2 ^ (-1022 : ℤ) ≤ x) : 2 ^ 53 * |nearest x - x| ≤ x := by
  have hclose := abs_nearest_sub_le x
  have hunit := mul_unit_le h
  linarith

/-- So the product of a small number and its rounded reciprocal is nearly one. -/
theorem abs_nearest_one_div_mul_sub_le (hpos : 0 < x) (hle : x ≤ 1) :
    2 ^ 53 * |nearest (1 / x) * x - 1| ≤ 1 := by
  have hone : 1 ≤ 1 / x := one_le_one_div hpos hle
  have hnearest := mul_abs_nearest_sub_le
    (hone.trans' (zpow_le_one_of_nonpos₀ (by norm_num) (by norm_num)))
  calc 2 ^ 53 * |nearest (1 / x) * x - 1| = 2 ^ 53 * |(nearest (1 / x) - 1 / x) * x| := by
        rw [sub_mul, one_div_mul_cancel hpos.ne']
    _ = 2 ^ 53 * |nearest (1 / x) - 1 / x| * x := by rw [abs_mul, abs_of_pos hpos, mul_assoc]
    _ ≤ 1 / x * x := mul_le_mul_of_nonneg_right hnearest hpos.le
    _ = 1 := one_div_mul_cancel hpos.ne'

/-- Numbers that differ by a tenth are not rounded to the same one. -/
theorem nearest_ne_of_le {y : ℚ} (hx : 0 ≤ x) (hy : 2 ^ (-1020 : ℤ) ≤ y) (h : 10 * x ≤ 9 * y) :
    nearest x ≠ nearest y := by
  intro hequal
  have hpower : (2 : ℚ) ^ (-1020 : ℤ) = 4 * 2 ^ (-1022 : ℤ) := by
    rw [show (-1020 : ℤ) = 2 + -1022 by norm_num, zpow_add₀ (by norm_num)]
    norm_num
  have hleast : (0 : ℚ) < 2 ^ (-1022 : ℤ) := by positivity
  have habove := mul_abs_nearest_sub_le (show 2 ^ (-1022 : ℤ) ≤ y by linarith)
  have hlow := neg_abs_le (nearest y - y)
  -- so the smaller number is not too small either
  have hnormal : 2 ^ (-1022 : ℤ) ≤ x := by
    have hdouble := nearest_le_two_mul hx
    linarith
  have hbelow := mul_abs_nearest_sub_le hnormal
  have hhigh := le_abs_self (nearest x - x)
  rw [hequal] at hbelow hhigh
  linarith

/-- A number of the format is a multiple of the unit around `x`, or it lies below a power of two
that is one and is not above `x`. -/
theorem IsBinary.eq_mul_unit_or_lt (hb : IsBinary b) (hx : 0 < x) :
    (∃ n : ℤ, b = n * unit x) ∨ b < 2 ^ 52 * unit x ∧ 2 ^ 52 * unit x ≤ x := by
  obtain ⟨factor, exponent, hfactor, hlow, rfl⟩ := hb
  rcases le_or_gt (unitExponent x) exponent with hle | hlt
  · obtain ⟨n, hn⟩ := exists_zpow_eq_mul_unit hle
    refine .inl ⟨factor * n, ?_⟩
    rw [hn]
    push_cast
    ring
  · right
    -- the unit is not the least one, so it belongs to the logarithm
    have hunit : unitExponent x = Int.log 2 x - 52 := by
      unfold unitExponent at hlt ⊢
      omega
    have hpower : (2 : ℚ) ^ 52 * unit x = 2 ^ Int.log 2 x := by
      rw [unit, hunit, ← zpow_natCast, ← zpow_add₀ (by norm_num)]
      congr 1
      push_cast
      ring
    constructor
    · have hcast : (factor : ℚ) < 2 ^ (53 : ℤ) := by exact_mod_cast hfactor
      calc (factor : ℚ) * 2 ^ exponent < 2 ^ (53 : ℤ) * 2 ^ exponent :=
            mul_lt_mul_of_pos_right hcast (by positivity)
        _ ≤ 2 ^ (53 : ℤ) * 2 ^ (Int.log 2 x - 53) :=
            mul_le_mul_of_nonneg_left (zpow_le_zpow_right₀ (by norm_num) (by omega)) (by positivity)
        _ = 2 ^ 52 * unit x := by
            rw [hpower, ← zpow_add₀ (by norm_num)]
            congr 1
            ring
    · rw [hpower]
      exact_mod_cast Int.zpow_log_le_self (by norm_num) hx

/-! ## Numbers of the format -/

/-- What lies below that power of two is not as near. -/
theorem abs_nearest_sub_lt (hbelow : b < 2 ^ 52 * unit x) (hle : 2 ^ 52 * unit x ≤ x) :
    |nearest x - x| < |b - x| := by
  calc |nearest x - x| ≤ |((2 ^ 52 : ℤ) : ℚ) * unit x - x| := abs_nearest_sub_le_of_mul x _
    _ = x - 2 ^ 52 * unit x := by
        rw [abs_sub_comm, Int.cast_pow, Int.cast_ofNat, abs_of_nonneg (sub_nonneg.2 hle)]
    _ < x - b := sub_lt_sub_left hbelow x
    _ = |b - x| := by rw [abs_sub_comm, abs_of_nonneg (by linarith)]

/-- No number of the format is nearer. -/
theorem abs_nearest_sub_le_of_isBinary (hx : 0 < x) (hb : IsBinary b) :
    |nearest x - x| ≤ |b - x| := by
  rcases hb.eq_mul_unit_or_lt hx with ⟨n, rfl⟩ | ⟨hbelow, hle⟩
  · exact abs_nearest_sub_le_of_mul x n
  · exact (abs_nearest_sub_lt hbelow hle).le

/-- Where another number of the format is equally near, the nearest one has an even factor. -/
theorem factor_even (hx : 0 < x) (hb : IsBinary b) (hne : b ≠ nearest x)
    (h : |b - x| = |nearest x - x|) : factor x % 2 = 0 := by
  rcases hb.eq_mul_unit_or_lt hx with ⟨n, rfl⟩ | ⟨hbelow, hle⟩
  · have hn : n ≠ nearestEven (x / unit x) := by
      rintro rfl
      exact hne rfl
    rw [nearest, abs_mul_unit_sub, abs_mul_unit_sub] at h
    have heven := nearestEven_even
      ((half_le_abs_sub hn).trans_eq (mul_right_cancel₀ (unit_pos x).ne' h))
    have hfactor := factor_eq hx.le
    omega
  · exact absurd h (abs_nearest_sub_lt hbelow hle).ne'

theorem isBinary_zero : IsBinary 0 := ⟨0, 0, by norm_num, by norm_num, by norm_num⟩

theorem nearest_zero : nearest 0 = 0 := nearest_of_isBinary isBinary_zero

private theorem isBinary_nearest (hx : 0 < x) : IsBinary (nearest x) := by
  rcases rounded_cases hx .positive with ⟨hzero, -⟩ |
    ⟨mantissa, exponent, -, -, hnearest, hmantissa, hlow, -⟩
  · rw [hzero]
    exact isBinary_zero
  · exact ⟨mantissa, exponent, hmantissa, hlow, hnearest.symm⟩

theorem IsBinary.nonneg (hb : IsBinary b) : 0 ≤ b := by
  obtain ⟨factor, exponent, -, -, rfl⟩ := hb
  positivity

/-- The next number of the format is larger by a `2 ^ 53`rd of itself at least. -/
theorem IsBinary.le_mul_sub (ha : IsBinary a) (hb : IsBinary b) (h : a < b) :
    b ≤ 2 ^ 53 * (b - a) := by
  rcases ha.nonneg.eq_or_lt with rfl | hpos
  · linarith
  have hunit := unit_pos a
  have hlt := lt_mul_unit a
  obtain ⟨m, hm⟩ : ∃ m : ℤ, a = m * unit a :=
    (ha.eq_mul_unit_or_lt hpos).resolve_right fun hbelow => absurd hbelow.1 (not_lt.2 hbelow.2)
  obtain ⟨n, hn⟩ : ∃ n : ℤ, b = n * unit a :=
    (hb.eq_mul_unit_or_lt hpos).resolve_right fun hbelow => by linarith [hbelow.1, hbelow.2]
  generalize unit a = u at hunit hlt hm hn
  subst hm hn
  have hbits : m < 2 ^ 53 := by exact_mod_cast lt_of_mul_lt_mul_right hlt hunit.le
  have hstep : m < n := by exact_mod_cast lt_of_mul_lt_mul_right h hunit.le
  have hbound : n ≤ 2 ^ 53 * (n - m) := by linarith
  calc (n : ℚ) * u ≤ (2 ^ 53 * (n - m) : ℤ) * u :=
        mul_le_mul_of_nonneg_right (by exact_mod_cast hbound) hunit.le
    _ = 2 ^ 53 * (n * u - m * u) := by
        push_cast
        ring

/-- Numbers of the format are apart by a `2 ^ 53`rd of either at least. -/
theorem IsBinary.le_mul_abs_sub (ha : IsBinary a) (hb : IsBinary b) (hne : a ≠ b) :
    a ≤ 2 ^ 53 * |a - b| := by
  rcases hne.lt_or_gt with hlt | hgt
  · rw [abs_sub_comm, abs_of_pos (sub_pos.2 hlt)]
    exact hlt.le.trans (ha.le_mul_sub hb hlt)
  · rw [abs_of_pos (sub_pos.2 hgt)]
    exact hb.le_mul_sub ha hgt

/-- What is close enough to a number of the format is rounded to it. -/
theorem nearest_eq_of_abs_sub_lt (hx : 0 < x) (ha : IsBinary a) (h : 2 ^ 54 * |a - x| < a) :
    nearest x = a := by
  by_contra hne
  have hapart := ha.le_mul_abs_sub (isBinary_nearest hx) (Ne.symm hne)
  have hclosest := abs_nearest_sub_le_of_isBinary hx ha
  have htriangle := abs_sub_le a x (nearest x)
  rw [abs_sub_comm x] at htriangle
  linarith

end DeskCalculator.Binary
