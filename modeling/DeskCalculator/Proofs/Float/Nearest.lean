import Mathlib

/-!
# The nearest binary number

A float has 53 bits in front of a unit, a power of two that is at least
`2 ^ -1074`.  Around a positive rational `x` the floats are the multiples of one
unit, and `nearest x` is the multiple next to `x`; of two equally near ones it is
the one with the even factor.  There is no largest number here: overflow is a
matter of how numbers are stored.

What the rest of the development uses is that `nearest` leaves the numbers of the
format alone (`nearest_of_isBinary`) and keeps their order (`nearest_mono`), so
that an inequality with such a number survives rounding.
-/

namespace DeskCalculator.Binary

/-! ## The nearest integer -/

/-- The integer nearest to a rational; of two equally near ones the even one. -/
def nearestEven (x : ℚ) : ℤ :=
  if 2 * Int.fract x < 1 then ⌊x⌋
  else if 1 < 2 * Int.fract x then ⌊x⌋ + 1
  else ⌊x⌋ + ⌊x⌋ % 2

private theorem floor_le_nearestEven (x : ℚ) : ⌊x⌋ ≤ nearestEven x := by
  unfold nearestEven
  split_ifs <;> omega

private theorem nearestEven_le_floor_succ (x : ℚ) : nearestEven x ≤ ⌊x⌋ + 1 := by
  unfold nearestEven
  split_ifs <;> omega

theorem nearestEven_intCast (n : ℤ) : nearestEven n = n := by
  unfold nearestEven
  rw [Int.fract_intCast, if_pos (by norm_num), Int.floor_intCast]

theorem nearestEven_mono {x y : ℚ} (h : x ≤ y) : nearestEven x ≤ nearestEven y := by
  rcases (Int.floor_le_floor h).lt_or_eq with hlt | heq
  · calc nearestEven x ≤ ⌊x⌋ + 1 := nearestEven_le_floor_succ x
      _ ≤ ⌊y⌋ := hlt
      _ ≤ nearestEven y := floor_le_nearestEven y
  · have hfract : Int.fract x ≤ Int.fract y := by
      unfold Int.fract
      rw [heq]
      linarith
    unfold nearestEven
    rw [heq]
    split_ifs <;> first | omega | (exfalso; linarith)

/-- No integer is nearer. -/
theorem abs_nearestEven_sub_le (x : ℚ) : |(nearestEven x : ℚ) - x| ≤ 1 / 2 := by
  have hfloor : (⌊x⌋ : ℚ) = x - Int.fract x := by
    rw [Int.fract]
    ring
  have hnonneg := Int.fract_nonneg x
  unfold nearestEven
  split_ifs with hbelow habove
  · rw [hfloor, abs_le]
    constructor <;> linarith
  · have hlt := Int.fract_lt_one x
    push_cast
    rw [hfloor, abs_le]
    constructor <;> linarith
  · have hparity : ⌊x⌋ % 2 = 0 ∨ ⌊x⌋ % 2 = 1 := by omega
    rcases hparity with hparity | hparity
    · rw [hparity, abs_le]
      push_cast
      constructor <;> linarith
    · rw [hparity, abs_le]
      push_cast
      constructor <;> linarith

private theorem nearestEven_le_two_mul {x : ℚ} (h : 0 ≤ x) : (nearestEven x : ℚ) ≤ 2 * x := by
  have hsplit := Int.floor_add_fract x
  have hfloor : (0 : ℚ) ≤ ⌊x⌋ := by exact_mod_cast Int.floor_nonneg.2 h
  unfold nearestEven
  split_ifs with hbelow habove
  · linarith [Int.fract_nonneg x]
  · push_cast
    linarith
  · have hparity : ⌊x⌋ % 2 ≤ 1 := by omega
    have hparity' : ((⌊x⌋ % 2 : ℤ) : ℚ) ≤ 1 := by exact_mod_cast hparity
    rw [Int.cast_add]
    linarith

theorem nearestEven_eq_zero {x : ℚ} (h : 0 ≤ x) (hhalf : x ≤ 1 / 2) : nearestEven x = 0 := by
  have hfloor : ⌊x⌋ = 0 := Int.floor_eq_zero_iff.2 ⟨h, by linarith⟩
  have hfract : Int.fract x = x := Int.fract_eq_self.2 ⟨h, by linarith⟩
  unfold nearestEven
  rw [hfract, hfloor]
  split_ifs with hbelow habove
  · rfl
  · exact absurd habove (by linarith)
  · rfl

/-! ## The unit -/

/-- The exponent of the unit of the floats around a positive number. -/
def unitExponent (x : ℚ) : ℤ :=
  max (Int.log 2 x - 52) (-1074)

/-- The unit of the floats around a positive number. -/
def unit (x : ℚ) : ℚ :=
  2 ^ unitExponent x

theorem unit_pos (x : ℚ) : 0 < unit x := zpow_pos (by norm_num) _

/-- A number is less than `2 ^ 53` units. -/
theorem lt_mul_unit (x : ℚ) : x < 2 ^ 53 * unit x := by
  have hunit : (2 : ℚ) ^ (Int.log 2 x - 52) ≤ unit x :=
    zpow_le_zpow_right₀ (by norm_num) (le_max_left _ _)
  calc x < 2 ^ (Int.log 2 x + 1) := by
        exact_mod_cast Int.lt_zpow_succ_log_self (by norm_num) x
    _ = 2 ^ 53 * 2 ^ (Int.log 2 x - 52) := by
        rw [← zpow_natCast, ← zpow_add₀ (by norm_num)]
        congr 1
        push_cast
        ring
    _ ≤ 2 ^ 53 * unit x := mul_le_mul_of_nonneg_left hunit (by positivity)

/-- It has no less than `2 ^ 52`, unless the unit is the least one. -/
theorem mul_unit_le_of_unitExponent {x : ℚ} (hx : 0 < x)
    (hunit : unitExponent x = Int.log 2 x - 52) : 2 ^ 52 * unit x ≤ x :=
  calc 2 ^ 52 * unit x = 2 ^ Int.log 2 x := by
        rw [unit, hunit, ← zpow_natCast, ← zpow_add₀ (by norm_num)]
        congr 1
        push_cast
        ring
    _ ≤ x := by exact_mod_cast Int.zpow_log_le_self (by norm_num) hx

/-- The float nearest to a positive number, where floats can be as large as they like. -/
def nearest (x : ℚ) : ℚ :=
  nearestEven (x / unit x) * unit x

/-- Whether a number has 53 bits in front of a unit that is not too small. -/
def IsBinary (x : ℚ) : Prop :=
  ∃ (factor : ℕ) (exponent : ℤ), factor < 2 ^ 53 ∧ -1074 ≤ exponent ∧
    x = factor * 2 ^ exponent

private theorem unitExponent_mono {x y : ℚ} (hx : 0 < x) (h : x ≤ y) :
    unitExponent x ≤ unitExponent y := by
  have hlog := @Int.log_mono_right ℚ _ _ _ _ 2 _ _ hx h
  unfold unitExponent
  omega

/-- A number of the format is a multiple of the unit around it. -/
theorem unitExponent_le {factor : ℕ} {exponent : ℤ} (hfactor : factor < 2 ^ 53)
    (hpos : 0 < factor) (hexponent : -1074 ≤ exponent) :
    unitExponent (factor * 2 ^ exponent) ≤ exponent := by
  have hx : (0 : ℚ) < factor * 2 ^ exponent := by positivity
  have hlt : (factor : ℚ) * 2 ^ exponent < 2 ^ (exponent + 53) := by
    have hcast : (factor : ℚ) < 2 ^ (53 : ℤ) := by exact_mod_cast hfactor
    rw [zpow_add₀ (by norm_num), mul_comm]
    exact mul_lt_mul_of_pos_left hcast (by positivity)
  have hlog : Int.log 2 ((factor : ℚ) * 2 ^ exponent) < exponent + 53 :=
    (Int.lt_zpow_iff_log_lt (by norm_num) hx).1 (by exact_mod_cast hlt)
  unfold unitExponent
  omega

/-- A power of two that is not below the unit is a multiple of it. -/
theorem exists_zpow_eq_mul_unit {x : ℚ} {exponent : ℤ} (h : unitExponent x ≤ exponent) :
    ∃ n : ℕ, (2 : ℚ) ^ exponent = n * unit x := by
  obtain ⟨surplus, hsurplus⟩ := Int.eq_ofNat_of_zero_le (sub_nonneg.2 h)
  refine ⟨2 ^ surplus, ?_⟩
  have hsplit : exponent = surplus + unitExponent x := by omega
  rw [hsplit, zpow_add₀ (by norm_num), zpow_natCast, unit]
  norm_cast

theorem le_nearest_of_mul_le {x : ℚ} {n : ℤ} (h : n * unit x ≤ x) : n * unit x ≤ nearest x := by
  have hquotient : (n : ℚ) ≤ x / unit x := (le_div_iff₀ (unit_pos x)).2 h
  have hmono := nearestEven_mono hquotient
  rw [nearestEven_intCast] at hmono
  exact mul_le_mul_of_nonneg_right (by exact_mod_cast hmono) (unit_pos x).le

theorem nearest_le_of_le_mul {x : ℚ} {n : ℤ} (h : x ≤ n * unit x) : nearest x ≤ n * unit x := by
  have hquotient : x / unit x ≤ n := (div_le_iff₀ (unit_pos x)).2 h
  have hmono := nearestEven_mono hquotient
  rw [nearestEven_intCast] at hmono
  exact mul_le_mul_of_nonneg_right (by exact_mod_cast hmono) (unit_pos x).le

/-- An integer number of units stays as it is. -/
theorem nearest_of_mul {x : ℚ} {n : ℤ} (h : x = n * unit x) : nearest x = x :=
  le_antisymm ((nearest_le_of_le_mul h.le).trans h.ge) (h.le.trans (le_nearest_of_mul_le h.ge))

theorem nearest_of_isBinary {x : ℚ} (h : IsBinary x) : nearest x = x := by
  obtain ⟨factor, exponent, hfactor, hexponent, rfl⟩ := h
  rcases Nat.eq_zero_or_pos factor with rfl | hpos
  · exact @nearest_of_mul _ 0 (by simp)
  · obtain ⟨n, hn⟩ := exists_zpow_eq_mul_unit (unitExponent_le hfactor hpos hexponent)
    refine @nearest_of_mul _ (factor * n) ?_
    conv_lhs => rw [hn]
    push_cast
    ring

/-! ## Order -/

/-- Rounding keeps the order: where the unit grows between two numbers, a power of two that is a
multiple of both units lies between them. -/
theorem nearest_mono {x y : ℚ} (hx : 0 < x) (h : x ≤ y) : nearest x ≤ nearest y := by
  have hy : 0 < y := hx.trans_le h
  rcases (unitExponent_mono hx h).lt_or_eq with hlt | heq
  · have hunit : unitExponent y = Int.log 2 y - 52 := by
      unfold unitExponent at hlt ⊢
      omega
    have hlog : Int.log 2 x < Int.log 2 y := by
      unfold unitExponent at hlt hunit
      omega
    have hbelow : x < 2 ^ Int.log 2 y := by
      exact_mod_cast (Int.lt_zpow_iff_log_lt (by norm_num) hx).2 hlog
    have habove : 2 ^ Int.log 2 y ≤ y := by
      exact_mod_cast Int.zpow_log_le_self (by norm_num) hy
    obtain ⟨m, hm⟩ := @exists_zpow_eq_mul_unit x (Int.log 2 y) (by omega)
    obtain ⟨n, hn⟩ := @exists_zpow_eq_mul_unit y (Int.log 2 y) (by omega)
    calc nearest x ≤ (m : ℤ) * unit x := nearest_le_of_le_mul (hbelow.le.trans hm.le)
      _ = (n : ℤ) * unit y := by exact_mod_cast hm.symm.trans hn
      _ ≤ nearest y := le_nearest_of_mul_le (hn.ge.trans habove)
  · unfold nearest unit
    rw [heq]
    have hmono : nearestEven (x / 2 ^ unitExponent y) ≤ nearestEven (y / 2 ^ unitExponent y) :=
      nearestEven_mono (div_le_div_of_nonneg_right h (by positivity))
    exact mul_le_mul_of_nonneg_right (by exact_mod_cast hmono) (by positivity)

theorem nearest_nonneg {x : ℚ} (h : 0 ≤ x) : 0 ≤ nearest x := by
  have hle := @le_nearest_of_mul_le x 0 (by simpa using h)
  simpa using hle

/-- No multiple of the unit is nearer. -/
theorem abs_nearest_sub_le (x : ℚ) : |nearest x - x| ≤ unit x / 2 := by
  have hunit := unit_pos x
  have hsplit : nearest x - x = (nearestEven (x / unit x) - x / unit x) * unit x := by
    rw [nearest, sub_mul, div_mul_cancel₀ _ hunit.ne']
  rw [hsplit, abs_mul, abs_of_pos hunit]
  calc |(nearestEven (x / unit x) : ℚ) - x / unit x| * unit x ≤ 1 / 2 * unit x :=
        mul_le_mul_of_nonneg_right (abs_nearestEven_sub_le _) hunit.le
    _ = unit x / 2 := by ring

theorem nearest_le_two_mul {x : ℚ} (h : 0 ≤ x) : nearest x ≤ 2 * x := by
  have hunit := unit_pos x
  calc nearest x ≤ 2 * (x / unit x) * unit x :=
        mul_le_mul_of_nonneg_right (nearestEven_le_two_mul (div_nonneg h hunit.le)) hunit.le
    _ = 2 * x := by rw [mul_assoc, div_mul_cancel₀ _ hunit.ne']

/-- What is at most half of the least unit is rounded to zero. -/
theorem nearest_eq_zero {x : ℚ} (h : 0 ≤ x) (hle : x ≤ 2 ^ (-1075 : ℤ)) : nearest x = 0 := by
  have hunit : (2 : ℚ) ^ (-1074 : ℤ) ≤ unit x :=
    zpow_le_zpow_right₀ (by norm_num) (le_max_right _ _)
  have hhalf : x / unit x ≤ 1 / 2 := by
    rw [div_le_iff₀ (unit_pos x)]
    calc x ≤ 2 ^ (-1075 : ℤ) := hle
      _ = 1 / 2 * 2 ^ (-1074 : ℤ) := by
        rw [show (-1075 : ℤ) = -1 + -1074 by norm_num, zpow_add₀ (by norm_num)]
        norm_num
      _ ≤ 1 / 2 * unit x := mul_le_mul_of_nonneg_left hunit (by norm_num)
  rw [nearest, nearestEven_eq_zero (div_nonneg h (unit_pos x).le) hhalf, Int.cast_zero, zero_mul]

/-- A lower bound of the format survives rounding. -/
theorem IsBinary.le_nearest {b x : ℚ} (hb : IsBinary b) (hpos : 0 < b) (h : b ≤ x) :
    b ≤ nearest x :=
  calc b = nearest b := (nearest_of_isBinary hb).symm
    _ ≤ nearest x := nearest_mono hpos h

/-- An upper bound of the format survives rounding. -/
theorem IsBinary.nearest_le {b x : ℚ} (hb : IsBinary b) (hpos : 0 < x) (h : x ≤ b) :
    nearest x ≤ b :=
  calc nearest x ≤ nearest b := nearest_mono hpos h
    _ = b := nearest_of_isBinary hb

end DeskCalculator.Binary
