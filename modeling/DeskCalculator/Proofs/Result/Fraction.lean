import DeskCalculator.Proofs.Result.Convergents

/-!
# The text of a fraction hint

A fraction hint is the convergent that the expansion of the absolute value ends with, and a
minus sign in front of it if the value is negative (`fractionHint_eq_some_iff`).  So it is a
fraction in lowest terms with a small denominator, whatever rounding does to the expansion,
and turning the sign of a value puts the minus sign in front of its hint
(`fractionHint_lowest_terms`).
-/

namespace DeskCalculator

open Binary

variable {v : Float} {text : String}

/-! ## Values that have a hint -/

theorem abs_neg_float (v : Float) : (-v).abs = v.abs := by
  refine unpack_injective ?_
  rw [unpack_abs, unpack_abs, unpack_neg]
  cases v.toModel.unpack <;> rfl

private theorem isWhole_neg (v : Float) : isWhole (-v) = isWhole v := by
  cases hfinite : v.isFinite with
  | false =>
      unfold isWhole
      rw [isFinite_neg, hfinite, Bool.false_and, Bool.false_and]
  | true =>
      rw [Bool.eq_iff_iff, isWhole_iff hfinite, isWhole_iff (by rwa [isFinite_neg]),
        magnitude_neg hfinite]

private theorem hasFraction_neg (v : Float) : hasFraction (-v) = hasFraction v := by
  rw [hasFraction, isFinite_neg, abs_neg_float, isWhole_neg, hasFraction]

/-- The absolute value of a value that has a hint is a positive number that is not whole. -/
theorem denotes_of_hasFraction (h : hasFraction v = true) :
    Denotes v.abs (magnitude v) ∧ isWhole v.abs = false := by
  simp only [hasFraction, Bool.and_eq_true, Bool.not_eq_true'] at h
  obtain ⟨⟨hfinite, -⟩, hwhole⟩ := h
  have hfract : Int.fract (magnitude v) ≠ 0 :=
    mt (isWhole_iff hfinite).2 (Bool.eq_false_iff.1 hwhole)
  have hpos : 0 < magnitude v :=
    (magnitude_nonneg v).lt_of_ne' fun hzero => hfract (by rw [hzero, Int.fract_zero])
  refine ⟨denotes_abs hfinite hpos, Bool.eq_false_iff.2 (mt (isWhole_iff ?_).1 ?_)⟩
  · rwa [isFinite_abs]
  · rwa [magnitude_abs hfinite]

/-! ## Hints -/

/-- A fraction as it is written. -/
def fractionText (isNegative : Bool) (numerator denominator : ℕ) : String :=
  let sign := if isNegative then "-" else ""
  s!"{sign}{numerator}/{denominator}"

/-- The hint of an expansion. -/
def Expansion.hint (isNegative : Bool) : Expansion → Except Breakdown (Option String)
  | .found numerator denominator =>
      if fractionDenominator < denominator then .ok none
      else .ok (some (fractionText isNegative numerator denominator))
  | .infinite => .error .infiniteReciprocal
  | .unfinished _ => .ok none

theorem Expansion.hint_found (isNegative : Bool) (numerator denominator : ℕ) :
    (Expansion.found numerator denominator).hint isNegative =
      if fractionDenominator < denominator then .ok none
      else .ok (some (fractionText isNegative numerator denominator)) := rfl

/-- The hint of a value is that of the expansion of its absolute value. -/
theorem fractionHint_eq (h : hasFraction v = true) : fractionHint v =
    (Convergents.expand v.abs expansionTerms (.start v.abs)).hint (v < 0) := by
  unfold fractionHint Expansion.hint fractionText
  rw [zero_eq, h, if_neg (by decide)]
  cases Convergents.expand v.abs expansionTerms (.start v.abs) with
  | infinite | unfinished => rfl
  | found numerator denominator => simp only [decide_eq_true_eq]

theorem fractionHint_of_not_hasFraction (h : hasFraction v = false) :
    fractionHint v = .ok none := by
  unfold fractionHint
  rw [h]
  rfl

theorem Expansion.hint_eq_some_iff {expansion : Expansion} {isNegative : Bool} :
    expansion.hint isNegative = .ok (some text) ↔ ∃ numerator denominator : ℕ,
      expansion = .found numerator denominator ∧ denominator ≤ fractionDenominator ∧
        text = fractionText isNegative numerator denominator := by
  constructor
  · intro h
    cases expansion with
    | infinite | unfinished => cases h
    | found numerator denominator =>
        rw [hint_found] at h
        split_ifs at h with hlarge
        · cases h
        · exact ⟨numerator, denominator, rfl, not_lt.1 hlarge,
            (Option.some.inj (Except.ok.inj h)).symm⟩
  · rintro ⟨numerator, denominator, rfl, hbound, rfl⟩
    exact if_neg (not_lt.2 hbound)

/-- The hint is the fraction that the expansion of the absolute value ends with. -/
theorem fractionHint_eq_some_iff :
    fractionHint v = .ok (some text) ↔ hasFraction v = true ∧ ∃ numerator denominator : ℕ,
      Convergents.expand v.abs expansionTerms (.start v.abs) = .found numerator denominator ∧
      denominator ≤ fractionDenominator ∧ text = fractionText (v < 0) numerator denominator := by
  cases h : hasFraction v with
  | false =>
      rw [fractionHint_of_not_hasFraction h]
      exact iff_of_false nofun nofun
  | true => rw [fractionHint_eq h, Expansion.hint_eq_some_iff, eq_self_iff_true, true_and]

/-! ## Signs -/

private theorem fractionText_true (numerator denominator : ℕ) :
    fractionText true numerator denominator = "-" ++ fractionText false numerator denominator := by
  show "-" ++ _ ++ "/" ++ _ = "-" ++ ("" ++ _ ++ "/" ++ _)
  rw [String.empty_append, String.append_assoc, String.append_assoc, String.append_assoc]

/-- The hint of a negative expansion has a minus sign in front. -/
theorem Expansion.hint_true (expansion : Expansion) :
    expansion.hint true = (expansion.hint false).map (Option.map ("-" ++ ·)) := by
  cases expansion with
  | infinite | unfinished => rfl
  | found numerator denominator =>
      rw [hint_found, hint_found]
      split_ifs
      · rfl
      · rw [fractionText_true]
        rfl

private theorem fractionHint_neg (h : 0 < v) :
    fractionHint (-v) = (fractionHint v).map (Option.map ("-" ++ ·)) := by
  have hkind := hasFraction_neg v
  cases hfraction : hasFraction v with
  | false =>
      rw [hfraction] at hkind
      rw [fractionHint_of_not_hasFraction hfraction, fractionHint_of_not_hasFraction hkind]
      rfl
  | true =>
      rw [hfraction] at hkind
      have hfinite : v.isFinite = true := by
        simp only [hasFraction, Bool.and_eq_true] at hfraction
        exact hfraction.1.1
      rw [pos_iff_value_pos hfinite] at h
      have hpositive : decide (v < 0) = false := by
        rw [decide_eq_false_iff_not, neg_iff_value_neg hfinite]
        exact h.not_gt
      have hnegative : decide (-v < 0) = true := by
        rw [decide_eq_true_iff, neg_iff_value_neg (by rwa [isFinite_neg]), value_neg hfinite]
        exact neg_neg_of_pos h
      rw [fractionHint_eq hfraction, fractionHint_eq hkind, hpositive, hnegative, abs_neg_float,
        Expansion.hint_true]

/-! ## Lowest terms -/

/-- A hint is a positive fraction in lowest terms with a denominator up to 10000, and the minus
sign in front of it stands for a negative value.  The hint of the opposite of a positive value is
the same text with a minus sign in front. -/
theorem fractionHint_lowest_terms (h : fractionHint v = .ok (some text)) :
    (∃ numerator denominator : ℕ, text = fractionText (v < 0) numerator denominator ∧
      1 ≤ numerator ∧ 1 ≤ denominator ∧ denominator ≤ 10000 ∧ numerator.Coprime denominator) ∧
    (0 < v → fractionHint (-v) = .ok (some ("-" ++ text))) := by
  constructor
  · obtain ⟨hfraction, numerator, denominator, hexpand, hbound, rfl⟩ := fractionHint_eq_some_iff.1 h
    obtain ⟨hdenotes, hwhole⟩ := denotes_of_hasFraction hfraction
    rcases Convergents.Reached.start.expand_cases expansionTerms with
      ⟨_, _, -, -, hlast⟩ | ⟨terms, last, hreached, hfinite, hends, hlast⟩ | ⟨_, -, hlast⟩ <;>
      rw [hexpand] at hlast <;> cases hlast
    exact ⟨_, _, rfl, hreached.numerator_next_pos hdenotes hfinite hwhole hends,
      hreached.denominator_next_pos hdenotes hfinite, hbound, hreached.coprime_next⟩
  · intro hpos
    rw [fractionHint_neg hpos, h]
    rfl

theorem fractionHint_lowest_terms_quarters :
    fractionHint 0.75 = .ok (some "3/4") ∧
    (∃ numerator denominator : ℕ, "3/4" = fractionText ((0.75 : Float) < 0) numerator denominator ∧
      1 ≤ numerator ∧ 1 ≤ denominator ∧ denominator ≤ 10000 ∧ numerator.Coprime denominator) ∧
    (0 < (0.75 : Float) → fractionHint (-0.75) = .ok (some ("-" ++ "3/4"))) := by
  have hhint : fractionHint 0.75 = .ok (some "3/4") := by decide +kernel
  exact ⟨hhint, fractionHint_lowest_terms hhint⟩

end DeskCalculator
