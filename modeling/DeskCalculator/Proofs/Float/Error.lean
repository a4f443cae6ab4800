import DeskCalculator.Proofs.Float.Range

/-!
# Accumulated rounding errors

Rounding moves a number by at most its `2 ^ 53`rd part.  Two positive numbers are within some
roundings of each other (`Within`) if their quotient is at most as far from 1 as so many
roundings bring it.  This is symmetric, and roundings add up when numbers are multiplied or
divided (`Within.mul`, `Within.div`) and when one is rounded again (`Within.nearest`), so the
error of a computation is counted by its operations (`Within.abs_sub_le`).
-/

namespace DeskCalculator.Binary

variable {x y x' y' : ℚ} {j k : ℕ}

/-- What is left of a number in the worst case when it is rounded so many times. -/
def shrinkage (k : ℕ) : ℚ := (1 - 1 / 2 ^ 53) ^ k

/-- Whether two numbers differ by at most so many roundings. -/
def Within (k : ℕ) (y x : ℚ) : Prop := x * shrinkage k ≤ y ∧ y * shrinkage k ≤ x

theorem shrinkage_pos (k : ℕ) : 0 < shrinkage k := by
  unfold shrinkage
  positivity

theorem shrinkage_add (j k : ℕ) : shrinkage (j + k) = shrinkage j * shrinkage k := pow_add _ j k

theorem le_shrinkage (k : ℕ) : 1 - k / 2 ^ 53 ≤ shrinkage k := by
  have hbernoulli := one_add_mul_le_pow (show (-2 : ℚ) ≤ -(1 / 2 ^ 53) by norm_num) k
  unfold shrinkage
  calc (1 - k / 2 ^ 53 : ℚ) = 1 + k * -(1 / 2 ^ 53) := by ring
    _ ≤ (1 + -(1 / 2 ^ 53)) ^ k := hbernoulli
    _ = (1 - 1 / 2 ^ 53) ^ k := by rw [← sub_eq_add_neg]

private theorem half_le_shrinkage (hk : k ≤ 2 ^ 52) : 1 / 2 ≤ shrinkage k := by
  have hcast : (k : ℚ) ≤ 2 ^ 52 := by exact_mod_cast hk
  have hbound := le_shrinkage k
  linarith

theorem within_self (x : ℚ) : Within 0 x x := by
  unfold Within shrinkage
  rw [pow_zero, mul_one]
  exact ⟨le_rfl, le_rfl⟩

theorem Within.mono (h : Within j y x) (hx : 0 ≤ x) (hy : 0 ≤ y) (hle : j ≤ k) : Within k y x := by
  have hshrinkage : shrinkage k ≤ shrinkage j :=
    pow_le_pow_of_le_one (by norm_num) (by norm_num) hle
  exact ⟨(mul_le_mul_of_nonneg_left hshrinkage hx).trans h.1,
    (mul_le_mul_of_nonneg_left hshrinkage hy).trans h.2⟩

/-- Roundings add up in a product. -/
theorem Within.mul (h : Within j y x) (h' : Within k y' x') (hx : 0 ≤ x) (hx' : 0 ≤ x')
    (hy : 0 ≤ y) (hy' : 0 ≤ y') : Within (j + k) (y * y') (x * x') := by
  have hj := (shrinkage_pos j).le
  have hk := (shrinkage_pos k).le
  unfold Within
  rw [shrinkage_add, mul_mul_mul_comm x, mul_mul_mul_comm y]
  exact ⟨mul_le_mul h.1 h'.1 (by positivity) hy, mul_le_mul h.2 h'.2 (by positivity) hx⟩

/-- They add up in a quotient, too. -/
theorem Within.div (h : Within j y x) (h' : Within k y' x') (hx : 0 ≤ x) (hx' : 0 < x')
    (hy : 0 ≤ y) (hy' : 0 < y') : Within (j + k) (y / y') (x / x') := by
  have hk := (shrinkage_pos k).le
  unfold Within
  rw [shrinkage_add, div_mul_eq_mul_div, div_mul_eq_mul_div, div_le_div_iff₀ hx' hy',
    div_le_div_iff₀ hy' hx']
  constructor
  · calc x * (shrinkage j * shrinkage k) * y' = x * shrinkage j * (y' * shrinkage k) := by ring
      _ ≤ y * x' := mul_le_mul h.1 h'.2 (by positivity) hy
  · calc y * (shrinkage j * shrinkage k) * x' = y * shrinkage j * (x' * shrinkage k) := by ring
      _ ≤ x * y' := mul_le_mul h.2 h'.1 (by positivity) hx

/-- One more rounding. -/
theorem Within.nearest (h : Within k y x) (hle : 2 ^ (-1022 : ℤ) ≤ y) :
    Within (k + 1) (nearest y) x := by
  have hrounding := mul_abs_nearest_sub_le hle
  have hlow := neg_abs_le (Binary.nearest y - y)
  have hhigh := le_abs_self (Binary.nearest y - y)
  have hy : 0 ≤ y := le_trans (by positivity) hle
  have hk := (shrinkage_pos k).le
  have hone : shrinkage 1 = 1 - 1 / 2 ^ 53 := pow_one _
  unfold Within
  rw [shrinkage_add, hone]
  constructor
  · calc x * (shrinkage k * (1 - 1 / 2 ^ 53)) = x * shrinkage k * (1 - 1 / 2 ^ 53) := by ring
      _ ≤ y * (1 - 1 / 2 ^ 53) := mul_le_mul_of_nonneg_right h.1 (by norm_num)
      _ ≤ Binary.nearest y := by linarith
  · calc Binary.nearest y * (shrinkage k * (1 - 1 / 2 ^ 53)) =
        Binary.nearest y * (1 - 1 / 2 ^ 53) * shrinkage k := by ring
      _ ≤ y * shrinkage k := by
          refine mul_le_mul_of_nonneg_right ?_ hk
          linarith
      _ ≤ x := h.2

/-- Roundings neither double nor halve a number. -/
theorem Within.bounds (h : Within k y x) (hx : 0 ≤ x) (hy : 0 ≤ y) (hk : k ≤ 2 ^ 52) :
    x ≤ 2 * y ∧ y ≤ 2 * x := by
  have hhalf := half_le_shrinkage hk
  have hlow := mul_le_mul_of_nonneg_left hhalf hx
  have hhigh := mul_le_mul_of_nonneg_left hhalf hy
  exact ⟨by linarith [h.1], by linarith [h.2]⟩

/-- The relative error, by the number of roundings. -/
theorem Within.abs_sub_le (h : Within k y x) (hx : 0 ≤ x) (hy : 0 ≤ y) (hk : k ≤ 2 ^ 52) :
    2 ^ 52 * |y - x| ≤ k * x := by
  have hbound := le_shrinkage k
  have hdouble := (h.bounds hx hy hk).2
  have hlow := (mul_le_mul_of_nonneg_left hbound hx).trans h.1
  have hhigh := (mul_le_mul_of_nonneg_left hbound hy).trans h.2
  have hcast : (0 : ℚ) ≤ k := Nat.cast_nonneg k
  have hscaled : (k : ℚ) * y ≤ k * (2 * x) := mul_le_mul_of_nonneg_left hdouble hcast
  rcases abs_cases (y - x) with ⟨habs, -⟩ | ⟨habs, -⟩ <;> rw [habs]
  · linarith
  · linarith [mul_nonneg hcast hx]

end DeskCalculator.Binary
