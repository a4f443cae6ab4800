import DeskCalculator.Proofs.Decimal.Value
import DeskCalculator.Proofs.Float.Range

/-!
# Decimals rounded to places

Rounding a decimal counts how many units `10 ^ -places` are nearest to it, a half upwards
(`coefficient_round`).  This gives the multiple of the unit that is nearest to the number, and of
two equally near ones the one that is farther from zero (`isRounding_roundedTo`).  The float of a
decimal is the nearest one to its number (`isNearest_toFloat`), and rounding that float to the same
places once more gives the same multiple (`roundedTo_nearest`).
-/

namespace DeskCalculator

variable {places : ℤ} {x y : ℚ}

/-- A number that is not negative, rounded to places. -/
def roundedTo (places : ℤ) (x : ℚ) : ℚ := round (x * 10 ^ places) / 10 ^ places

/-! ## The digits that are kept -/

section

variable (d : Decimal) (places : ℤ)

private theorem exponent_round : (d.round places).exponent = -places := by
  unfold Decimal.round
  split <;> split_ifs <;> rfl

/-- A decimal that loses digits is a quotient of its coefficient. -/
theorem value_mul_eq_div {surplus : ℕ} (h : d.exponent + places = Int.negSucc surplus) :
    d.value * 10 ^ places = (d.coefficient : ℚ) / (10 ^ (surplus + 1) : ℕ) := by
  have hexponent : d.exponent + places = -((surplus + 1 : ℕ) : ℤ) := h
  rw [Decimal.value, mul_assoc, ← zpow_add₀ (by norm_num), hexponent, zpow_neg, zpow_natCast,
    ← div_eq_mul_inv, Nat.cast_pow, Nat.cast_ofNat]

/-- A decimal is rounded to the nearest number of units. -/
theorem coefficient_round : ((d.round places).coefficient : ℤ) = round (d.value * 10 ^ places) := by
  unfold Decimal.round
  cases hexponent : d.exponent + places with
  | ofNat extra =>
      have hvalue : d.value * 10 ^ places = (d.coefficient * 10 ^ extra : ℕ) := by
        rw [Decimal.value, mul_assoc, ← zpow_add₀ (by norm_num), hexponent]
        push_cast
        rfl
      rw [hvalue, round_natCast]
      dsimp only
      split_ifs with hzero
      · rw [hzero, zero_mul]
      · rfl
  | negSucc surplus =>
      rw [value_mul_eq_div d places hexponent]
      dsimp only
      split_ifs with hshort
      · -- all digits stand behind the first place that is left out
        have hlt : d.coefficient < 10 ^ surplus :=
          d.coefficient_lt.trans_le (Nat.pow_le_pow_right (by norm_num) hshort)
        have hsmall : (d.coefficient : ℚ) / (10 ^ (surplus + 1) : ℕ) < 1 / 2 := by
          rw [div_lt_div_iff₀ (by positivity) (by norm_num)]
          have htwice : d.coefficient * 2 < 1 * 10 ^ (surplus + 1) := by
            rw [pow_succ]
            omega
          exact_mod_cast htwice
        have hnonneg : (0 : ℚ) ≤ (d.coefficient : ℚ) / (10 ^ (surplus + 1) : ℕ) := by positivity
        rw [round_eq_zero_iff.2 ⟨by linarith, hsmall⟩]
        rfl
      · have hhalf : (d.coefficient : ℚ) / (10 ^ (surplus + 1) : ℕ) + 1 / 2 =
            ((2 * d.coefficient + 10 ^ (surplus + 1) : ℕ) : ℚ) / (2 * 10 ^ (surplus + 1) : ℕ) := by
          have hpos : (0 : ℚ) < (10 ^ (surplus + 1) : ℕ) := by positivity
          push_cast
          field_simp
        rw [round_eq, hhalf, Rat.floor_natCast_div_natCast]
        rfl

theorem value_round : (d.round places).value = roundedTo places d.value := by
  have hcoefficient : ((d.round places).coefficient : ℚ) = round (d.value * 10 ^ places) := by
    exact_mod_cast congrArg (Int.cast : ℤ → ℚ) (coefficient_round d places)
  rw [Decimal.value, hcoefficient, exponent_round, zpow_neg, ← div_eq_mul_inv, roundedTo]

end

/-! ## The nearest multiple of the unit -/

/-- Whether `d` is the multiple of `10 ^ -places` that is nearest to `x`, and of two equally near
ones the one that is farther from zero. -/
structure IsRounding (places : ℤ) (x d : ℚ) : Prop where
  multiple : ∃ n : ℤ, d = n / 10 ^ places
  le : ∀ n : ℤ, |d - x| ≤ |n / 10 ^ places - x|
  away : ∀ n : ℤ, |n / 10 ^ places - x| = |d - x| → |(n / 10 ^ places : ℚ)| ≤ |d|

theorem abs_sub_mul_power (places : ℤ) (x y : ℚ) :
    |x - y| * 10 ^ places = |x * 10 ^ places - y * 10 ^ places| := by
  have hpower : (0 : ℚ) < 10 ^ places := by positivity
  rw [← sub_mul, abs_mul, abs_of_pos hpower]

private theorem abs_div_sub (n : ℤ) :
    |(n / 10 ^ places - x : ℚ)| = |n - x * 10 ^ places| / 10 ^ places := by
  have hpower : (0 : ℚ) < 10 ^ places := by positivity
  rw [eq_div_iff hpower.ne', abs_sub_mul_power, div_mul_cancel₀ _ hpower.ne']

private theorem round_le_add_half (x : ℚ) : (round x : ℚ) ≤ x + 1 / 2 := by
  rw [round_eq]
  exact Int.floor_le _

private theorem sub_half_lt_round (x : ℚ) : x - 1 / 2 < round x := by
  have hlt := Int.lt_floor_add_one (x + 1 / 2)
  rw [round_eq]
  linarith

private theorem round_eq_of_bounds {x : ℚ} {n : ℤ} (hlow : n - 1 / 2 ≤ x) (hhigh : x < n + 1 / 2) :
    round x = n := by
  rw [round_eq, Int.floor_eq_iff]
  constructor <;> linarith

theorem round_mono {x y : ℚ} (h : x ≤ y) : round x ≤ round y := by
  rw [round_eq, round_eq]
  exact Int.floor_mono (add_le_add_left h _)

theorem roundedTo_mono (h : x ≤ y) : roundedTo places x ≤ roundedTo places y := by
  have hpower : (0 : ℚ) < 10 ^ places := by positivity
  have hround := round_mono (mul_le_mul_of_nonneg_right h hpower.le)
  exact div_le_div_of_nonneg_right (by exact_mod_cast hround) hpower.le

theorem roundedTo_zero (places : ℤ) : roundedTo places 0 = 0 := by
  rw [roundedTo, zero_mul, round_zero, Int.cast_zero, zero_div]

theorem roundedTo_nonneg (hx : 0 ≤ x) : 0 ≤ roundedTo places x :=
  (roundedTo_zero places).symm.trans_le (roundedTo_mono hx)

/-- With places behind the point, a number is rounded to one that is not much larger. -/
theorem roundedTo_le (hplaces : 0 ≤ places) (x : ℚ) : roundedTo places x ≤ x + 1 := by
  have hpower : (1 : ℚ) ≤ 10 ^ places := one_le_zpow₀ (by norm_num) hplaces
  rw [roundedTo, div_le_iff₀ (by linarith), add_mul, one_mul]
  have hround := round_le_add_half (x * 10 ^ places)
  linarith

/-- A number that is not negative is rounded to the nearest multiple, a half away from zero. -/
theorem isRounding_roundedTo (hx : 0 ≤ x) : IsRounding places x (roundedTo places x) := by
  have hpower : (0 : ℚ) < 10 ^ places := by positivity
  refine ⟨⟨_, rfl⟩, fun n => ?_, fun n htie => ?_⟩
  · rw [roundedTo, abs_div_sub, abs_div_sub, abs_sub_comm, abs_sub_comm (n : ℚ)]
    exact div_le_div_of_nonneg_right (round_le _ n) hpower.le
  · rw [roundedTo, abs_div_sub, abs_div_sub, div_left_inj' hpower.ne', abs_eq_abs] at htie
    rw [roundedTo, abs_div, abs_div]
    refine div_le_div_of_nonneg_right ?_ (abs_nonneg _)
    have hnonneg : 0 ≤ x * 10 ^ places := mul_nonneg hx hpower.le
    generalize x * 10 ^ places = scaled at htie hnonneg
    have habove := sub_half_lt_round scaled
    rcases htie with hsame | hopposite
    · rw [sub_left_inj.1 hsame]
    · have hlt : n < round scaled + 1 := by
        have hcast : (n : ℚ) < round scaled + 1 := by linarith
        exact_mod_cast hcast
      have hle : (n : ℚ) ≤ round scaled := by exact_mod_cast Int.lt_add_one_iff.1 hlt
      exact abs_le_abs hle (by linarith)

theorem IsRounding.neg {d : ℚ} (h : IsRounding places x d) : IsRounding places (-x) (-d) := by
  have hopposite : ∀ n : ℤ, -(n / 10 ^ places : ℚ) = (-n : ℤ) / 10 ^ places := by
    intro n
    push_cast
    ring
  obtain ⟨m, hm⟩ := h.multiple
  refine ⟨⟨-m, by rw [hm, hopposite]⟩, fun n => ?_, fun n htie => ?_⟩
  · rw [Binary.abs_sub_neg_eq, Binary.abs_sub_neg_eq, neg_neg, hopposite]
    exact h.le (-n)
  · rw [Binary.abs_sub_neg_eq, Binary.abs_sub_neg_eq, neg_neg, hopposite] at htie
    rw [abs_neg, ← abs_neg (n / 10 ^ places : ℚ), hopposite]
    exact h.away (-n) htie

/-! ## The nearest float -/

open Binary

theorem nearest_roundedTo_mono (hx : 0 ≤ x) (h : x ≤ y) :
    nearest (roundedTo places x) ≤ nearest (roundedTo places y) := by
  rcases (roundedTo_nonneg hx).eq_or_lt with hzero | hpos
  · rw [← hzero, nearest_zero]
    exact nearest_nonneg (roundedTo_nonneg (hx.trans h))
  · exact nearest_mono hpos (roundedTo_mono h)

section

variable {d : Decimal}

/-- The float of a decimal that is not too large is the nearest one to its number. -/
theorem isNearest_toFloat (h : d.value < overflow) : IsNearest d.toFloat d.value := by
  rcases Nat.eq_zero_or_pos d.coefficient with hzero | hpos
  · rw [Decimal.toFloat_zero hzero, Decimal.value_eq_zero_iff.2 hzero]
    exact isNearest_zero
  · rw [Decimal.toFloat_eq_nearestFloat hpos]
    exact isNearest_nearestFloat (Decimal.value_pos_iff.2 hpos) h

theorem value_toFloat (h : d.value < overflow) : value d.toFloat = nearest d.value := by
  rcases Nat.eq_zero_or_pos d.coefficient with hzero | hpos
  · rw [Decimal.toFloat_zero hzero, Decimal.value_eq_zero_iff.2 hzero, nearest_zero,
      value_zero]
  · rw [Decimal.toFloat_eq_nearestFloat hpos]
    exact value_nearestFloat (Decimal.value_pos_iff.2 hpos).le h

theorem signBit_toFloat (h : d.value < overflow) : signBit d.toFloat = false := by
  rcases Nat.eq_zero_or_pos d.coefficient with hzero | hpos
  · rw [Decimal.toFloat_zero hzero]
    decide +kernel
  · rw [Decimal.toFloat_eq_nearestFloat hpos]
    exact signBit_eq_false (parts_pack_rounded (Decimal.value_pos_iff.2 hpos).le h .positive).1

end

/-- A number of the format and the float nearest to a multiple of the unit cannot lie on either side
of that multiple, half a unit away: they would be multiples of the unit themselves. -/
theorem not_half_apart (hb : IsBinary x) {n : ℤ} (hpos : 0 < (n / 10 ^ places : ℚ))
    (hbelow : x * 10 ^ places = n - 1 / 2)
    (habove : nearest (n / 10 ^ places) * 10 ^ places = n + 1 / 2) : False := by
  have hpower : (0 : ℚ) < 10 ^ places := by positivity
  have hcancel : (n / 10 ^ places : ℚ) * 10 ^ places = n := div_mul_cancel₀ _ hpower.ne'
  have hequal : |x - n / 10 ^ places| = |nearest (n / 10 ^ places) - n / 10 ^ places| := by
    refine mul_right_cancel₀ hpower.ne' ?_
    rw [abs_sub_mul_power, abs_sub_mul_power, hbelow, habove, hcancel]
    norm_num
  have hclose := abs_nearest_sub_le (n / 10 ^ places : ℚ)
  generalize (n / 10 ^ places : ℚ) = d at hpos habove hcancel hequal hclose
  have hunit := mul_pos (unit_pos d) hpower
  rcases hb.eq_mul_unit_or_lt hpos with ⟨m, hm⟩ | ⟨hfar, hle⟩
  · obtain ⟨k, hk⟩ : ∃ k : ℤ, nearest d = k * unit d := ⟨_, rfl⟩
    -- the unit of the floats is no less than the distance of both numbers, so it is that distance
    have hone : 1 ≤ unit d * 10 ^ places := by
      have hscaled := mul_le_mul_of_nonneg_right ((le_abs_self _).trans hclose) hpower.le
      rw [sub_mul, habove, hcancel] at hscaled
      linarith
    have hgap : ((k - m : ℤ) : ℚ) * (unit d * 10 ^ places) = 1 := by
      push_cast
      linear_combination habove - hbelow - 10 ^ places * hk + 10 ^ places * hm
    have hstep : (1 : ℚ) ≤ (k - m : ℤ) := by
      have hpositive : (0 : ℚ) < (k - m : ℤ) :=
        pos_of_mul_pos_left (hgap.symm ▸ one_pos) hunit.le
      exact_mod_cast hpositive
    have hsame : unit d * 10 ^ places = 1 :=
      le_antisymm ((le_mul_of_one_le_left hunit.le hstep).trans_eq hgap) hone
    have hwhole : (m : ℚ) = n - 1 / 2 := by
      rw [← hbelow, hm, mul_assoc, hsame, mul_one]
    have hodd : 2 * m = 2 * n - 1 := by
      have hdouble : 2 * (m : ℚ) = 2 * n - 1 := by linarith
      exact_mod_cast hdouble
    omega
  · exact absurd hequal (abs_nearest_sub_lt hfar hle).ne'

/-- Rounding to places and then to a float is idempotent.  The float is no farther from the multiple
than the first number was, so it is rounded to the same multiple unless it lies exactly half a unit
above it. -/
theorem roundedTo_nearest (hx : 0 ≤ x) (hb : IsBinary x) :
    roundedTo places (nearest (roundedTo places x)) = roundedTo places x := by
  have hpower : (0 : ℚ) < 10 ^ places := by positivity
  rcases (roundedTo_nonneg hx).eq_or_lt with hzero | hpos
  · rw [← hzero, nearest_zero, roundedTo_zero]
  by_cases hsame : nearest (roundedTo places x) = x
  · rw [hsame]
  have hclosest := abs_nearest_sub_le_of_isBinary hpos hb
  unfold roundedTo at hclosest hpos hsame ⊢
  have hhalf := abs_sub_round (x * 10 ^ places)
  generalize round (x * 10 ^ places) = n at hclosest hpos hsame hhalf ⊢
  have hscaled : |nearest (n / 10 ^ places) * 10 ^ places - n| ≤ |x * 10 ^ places - n| := by
    have hcancel : (n / 10 ^ places : ℚ) * 10 ^ places = n := div_mul_cancel₀ _ hpower.ne'
    have hscale := mul_le_mul_of_nonneg_right hclosest hpower.le
    rwa [abs_sub_mul_power, abs_sub_mul_power, hcancel] at hscale
  have hround : round (nearest (n / 10 ^ places : ℚ) * 10 ^ places) = n := by
    obtain ⟨hlow, hhigh⟩ := abs_le.1 (hscaled.trans hhalf)
    refine round_eq_of_bounds (by linarith) ?_
    by_contra hge
    have habove : nearest (n / 10 ^ places : ℚ) * 10 ^ places = n + 1 / 2 := by linarith
    rw [habove, add_sub_cancel_left, abs_of_pos (by norm_num)] at hscaled
    rcases (abs_eq (by norm_num)).1 (le_antisymm hhalf hscaled) with hup | hdown
    · refine hsame (mul_right_cancel₀ hpower.ne' ?_)
      linarith
    · exact not_half_apart hb hpos (by linarith) habove
  rw [hround]

end DeskCalculator
