import DeskCalculator.Proofs.Decimal.Shortest
import DeskCalculator.Proofs.Result.ReadBack
import DeskCalculator.Proofs.Result.Rounding

/-!
# How many places a rounded result shows

A rounded result is a float, and it is shown by its shortest decimal, which need not be the rounded
decimal.  It still has no more digits behind the point than were asked for
(`rounded_result_shows_places`), whether it is written positionally or with an exponent.

## Strategy

The rounded decimal reads back as the float.  If the shortest decimal had a digit behind the last
place, the rounded decimal would lie on the next coarser grid too, and the search would have stopped
there.  Only a shortest decimal of a single digit has no coarser grid.  It is the unit itself, or at
most nine tenths of it (`eq_unit_or_le`); but the rounded decimal is not less than the unit, and
numbers that far apart do not read back as one float (`nearest_ne_of_le`).
-/

namespace DeskCalculator

open Binary

variable {v : Float} {places n : ℕ}

/-- A multiple of the unit lies on every finer grid. -/
theorem exists_on_grid {exponent : ℤ} (h : exponent ≤ -(places : ℤ)) (n : ℕ) :
    ∃ m : ℕ, (n / 10 ^ places : ℚ) = m * 10 ^ exponent := by
  obtain ⟨surplus, hsurplus⟩ := Int.eq_ofNat_of_zero_le (sub_nonneg.2 h)
  have hexponent : -(places : ℤ) = surplus + exponent := by omega
  refine ⟨n * 10 ^ surplus, ?_⟩
  rw [div_eq_mul_inv, ← zpow_natCast, ← zpow_neg, hexponent, zpow_add₀ (by norm_num), zpow_natCast]
  push_cast
  ring

/-- A decimal whose last digit stands before the last place is a multiple of the unit. -/
theorem exists_multiple {e : Decimal} (h : -(places : ℤ) ≤ e.exponent) :
    ∃ k : ℕ, e.value * 10 ^ places = k := by
  obtain ⟨surplus, hsurplus⟩ := Int.eq_ofNat_of_zero_le (neg_le_iff_add_nonneg.1 h)
  refine ⟨e.coefficient * 10 ^ surplus, ?_⟩
  rw [Decimal.value, mul_assoc, ← zpow_natCast (10 : ℚ) places, ← zpow_add₀ (by norm_num), hsurplus]
  push_cast
  rfl

/-- A decimal of a single digit behind the last place is the unit itself, or at most nine tenths
of it. -/
theorem eq_unit_or_le {e : Decimal} (hcoefficient : e.coefficient ≤ 10)
    (h : e.exponent < -(places : ℤ)) :
    e.value * 10 ^ places = 1 ∨ 10 * (e.value * 10 ^ places) ≤ 9 := by
  have hscaled : e.value * 10 ^ places = e.coefficient * 10 ^ (e.exponent + places) := by
    rw [Decimal.value, mul_assoc, ← zpow_natCast (10 : ℚ) places, ← zpow_add₀ (by norm_num)]
  have hcast : (e.coefficient : ℚ) ≤ 10 := by exact_mod_cast hcoefficient
  have hpower : (0 : ℚ) < 10 ^ (e.exponent + places) := by positivity
  rw [hscaled]
  rcases (show e.exponent + places = -1 ∨ e.exponent + places ≤ -2 by omega) with hnext | hfar
  · rw [hnext]
    rcases hcoefficient.eq_or_lt with hten | hless
    · left
      rw [hten]
      norm_num
    · right
      have hnine : (e.coefficient : ℚ) ≤ 9 := by exact_mod_cast Nat.lt_succ_iff.1 hless
      norm_num
      linarith
  · right
    have hsmall : (10 : ℚ) ^ (e.exponent + places) ≤ 10 ^ (-2 : ℤ) :=
      zpow_le_zpow_right₀ (by norm_num) hfar
    have hproduct := mul_le_mul hcast hsmall hpower.le (by norm_num)
    norm_num at hproduct
    linarith

/-- Where a multiple of the unit reads back as a float, the shortest decimal is one, too. -/
theorem shortest_multiple (hplaces : places ≤ 8) (hfinite : v.isFinite = true)
    (hpos : 0 < magnitude v) (h : nearest (n / 10 ^ places) = magnitude v) :
    ∃ k : ℕ, (Decimal.shortest v).value * 10 ^ places = k := by
  obtain ⟨count, e, hfound, hvalue⟩ := Decimal.exists_found hfinite hpos
  rw [hvalue]
  rcases le_or_gt (-(places : ℤ)) e.exponent with hcoarse | hfine
  · exact exists_multiple hcoarse
  have hone : count = 1 := by
    by_contra hne
    have hseveral : 1 < count := lt_of_le_of_ne hfound.pos (Ne.symm hne)
    obtain ⟨m, hm⟩ := @exists_on_grid places (e.exponent + 1) (by omega) n
    rw [hm] at h
    exact hfound.coarser hseveral m h
  have hcoefficient := hfound.coefficient
  rw [hone, pow_one] at hcoefficient
  rcases eq_unit_or_le hcoefficient hfine with hunit | hless
  · exact ⟨1, by rw [hunit, Nat.cast_one]⟩
  · -- the multiple is at least the unit, so that it cannot read back as the same float
    exfalso
    have hn : 1 ≤ n := by
      rw [Nat.one_le_iff_ne_zero]
      rintro rfl
      rw [Nat.cast_zero, zero_div, nearest_zero] at h
      exact hpos.ne h
    have hcast : (1 : ℚ) ≤ n := by exact_mod_cast hn
    have hpower : (0 : ℚ) < 10 ^ places := by positivity
    refine nearest_ne_of_le (show 0 ≤ e.value by unfold Decimal.value; positivity) ?_ ?_
      (hfound.reads.trans h.symm)
    · calc (2 : ℚ) ^ (-1020 : ℤ) ≤ 2 ^ (-27 : ℤ) :=
            zpow_le_zpow_right₀ (by norm_num) (by norm_num)
        _ ≤ 1 / 10 ^ 8 := by norm_num
        _ ≤ n / 10 ^ places :=
            div_le_div₀ (by linarith) hcast hpower (pow_le_pow_right₀ (by norm_num) hplaces)
    · rw [mul_div_assoc', le_div_iff₀ hpower]
      linarith

/-! ## The text of a rounded result -/

theorem exists_roundedTo_eq {x : ℚ} (hx : 0 ≤ x) (places : ℕ) :
    ∃ n : ℕ, roundedTo places x = n / 10 ^ places := by
  have hnonneg : 0 ≤ round (x * 10 ^ (places : ℤ)) := by
    rw [← @round_zero ℚ]
    exact round_mono (by positivity)
  obtain ⟨n, hn⟩ := Int.eq_ofNat_of_zero_le hnonneg
  refine ⟨n, ?_⟩
  rw [roundedTo, hn, zpow_natCast]
  rfl

/-- Whether a text is a number behind at most a minus that has at most so many digits behind the
point: with the point moved behind these places it is whole.  An exponent counts. -/
def ShowsPlaces (places : ℕ) (text : List Char) : Prop :=
  ∃ minus numeral, text = minus ++ numeral ∧ (minus = [] ∨ minus = ['-']) ∧ numeral ≠ [] ∧
    numeralLength numeral = numeral.length ∧
    ∃ k : ℕ, (Decimal.read numeral).value * 10 ^ places = k

private theorem showsPlaces_displayText (hplaces : places ≤ 8) (hfinite : v.isFinite = true)
    (h : nearest (n / 10 ^ places) = magnitude v) : ShowsPlaces places (displayText v).toList := by
  obtain ⟨signed, htext, -, hdecimal⟩ := exists_numeral_of_displayText hfinite
  refine ⟨signed.minus, signed.numeral.chars, htext, ?_, signed.numeral.chars_ne_nil,
    signed.numeral.numeralLength_chars, ?_⟩
  · unfold SignedNumeral.minus
    split_ifs
    · exact .inr rfl
    · exact .inl rfl
  · rw [signed.numeral.read_chars, hdecimal]
    split_ifs with hzero
    · exact ⟨0, by rw [zero_mul, Nat.cast_zero]⟩
    · have hpos : 0 < magnitude v := by
        rw [magnitude_pos_iff, Nat.pos_iff_ne_zero]
        exact fun hnone => hzero ((beq_zero_iff hfinite).2 hnone)
      exact shortest_multiple hplaces hfinite hpos h

/-- A result that is rounded to places is shown with at most so many digits behind the point. -/
theorem rounded_result_shows_places (hplaces : places ≤ 8) (hfinite : v.isFinite = true)
    (hsmall : v.abs < largeMagnitude) :
    ∃ w, roundTo v (some places) = .ok w ∧ ShowsPlaces places (displayText w).toList := by
  rw [abs_lt_iff hfinite] at hsmall
  obtain ⟨n, hn⟩ := exists_roundedTo_eq (magnitude_nonneg v) places
  refine ⟨_, roundTo_eq hplaces hfinite hsmall, ?_⟩
  refine @showsPlaces_displayText _ places n hplaces (isNearest_rounding hsmall).isFinite ?_
  rw [magnitude_rounding hsmall, hn]

/-- A third has two digits behind the point when it is rounded to two places. -/
theorem rounded_result_shows_places_third :
    (1.0 / 3.0 : Float).isFinite = true ∧ (1.0 / 3.0 : Float).abs < largeMagnitude ∧
      ∃ w, roundTo (1.0 / 3.0) (some 2) = .ok w ∧ ShowsPlaces 2 (displayText w).toList := by
  have hfinite : (1.0 / 3.0 : Float).isFinite = true := by decide +kernel
  have hsmall : (1.0 / 3.0 : Float).abs < largeMagnitude := by decide +kernel
  exact ⟨hfinite, hsmall,
    @rounded_result_shows_places (1.0 / 3.0) 2 (by norm_num) hfinite hsmall⟩

end DeskCalculator
