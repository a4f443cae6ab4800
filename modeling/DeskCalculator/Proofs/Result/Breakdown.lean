import DeskCalculator.Proofs.Expr.Totality
import DeskCalculator.Proofs.Result.Display
import DeskCalculator.Proofs.Result.Places
import DeskCalculator.Proofs.Result.Terms

/-!
# When a result cannot be presented

An entry without a value is refused with a fault (`faultsOnly_entryValue`).  An
entry with a value is presented, unless the expansion of its fraction hint takes
the reciprocal of so small a number that it is infinite.  This file says when
that is: the value is not rounded, it is not zero, and its magnitude is at most
`2 ^ -1024`.  Every other entry evaluates to a result or to a fault
(`evaluateEntry_completes_iff`).

## Strategy

* A remainder that is at least 1 has a fractional part whose reciprocal is finite
  (`one_div_fract_lt_overflow`), and only the first remainder can be less.  So an
  expansion breaks down exactly if the reciprocal of its target is infinite
  (`expand_eq_infinite_iff`, `overflow_le_one_div_iff`).
* A value that is rounded is zero or at least about as large as a unit, which is not
  that small (`not_tooSmall_rounding`), and rounding itself succeeds (`exists_roundTo`).
-/

namespace DeskCalculator

open Binary

/-! ## Reciprocals -/

namespace Binary

variable {x : ℚ}

private theorem overflow_eq : overflow * 2 ^ (-1024 : ℤ) = 1 - 1 / 2 ^ 54 := by
  rw [overflow, mul_assoc, ← zpow_add₀ (by norm_num)]
  norm_num

/-- Behind a whole part, the fractional part is not so small that its reciprocal is infinite. -/
theorem one_div_fract_lt_overflow (hb : IsBinary x) (hone : 1 ≤ x) (hfract : 0 < Int.fract x) :
    1 / Int.fract x < overflow := by
  have hfloor : ((⌊x⌋₊ : ℕ) : ℚ) = x - Int.fract x := by
    rw [Int.self_sub_fract, natCast_floor_eq_intCast_floor (zero_le_one.trans hone)]
  have hgap := hb.floor.le_mul_sub hb (by linarith)
  rw [hfloor, sub_sub_cancel] at hgap
  calc 1 / Int.fract x ≤ 2 ^ 53 := by
        rw [div_le_iff₀ hfract]
        linarith
    _ < overflow := lt_overflow_of_le (by norm_num)

/-- Which numbers of the format have an infinite reciprocal. -/
theorem overflow_le_one_div_iff (hb : IsBinary x) (hpos : 0 < x) :
    overflow ≤ 1 / x ↔ x ≤ 2 ^ (-1024 : ℤ) := by
  have hbound := overflow_eq
  have hoverflow := overflow_pos
  rw [le_div_iff₀ hpos]
  constructor
  · intro hle
    by_contra hgt
    -- the next number of the format is too large already
    have hsmallest : IsBinary (2 ^ (-1024 : ℤ)) :=
      ⟨1, -1024, by norm_num, by norm_num, by norm_num⟩
    have hgap := hsmallest.le_mul_sub hb (not_le.1 hgt)
    have hscaled := mul_le_mul_of_nonneg_left hgap hoverflow.le
    generalize (2 : ℚ) ^ (-1024 : ℤ) = bound at hbound hscaled
    linarith
  · intro hle
    have hscaled := mul_le_mul_of_nonneg_left hle hoverflow.le
    rw [hbound] at hscaled
    exact hscaled.trans (by norm_num)

/-- A number between 0 and 1 is not whole. -/
theorem isWhole_of_lt_one {v : Float} (hfinite : v.isFinite = true) (hpos : 0 < magnitude v)
    (hless : magnitude v < 1) : isWhole v = false := by
  rw [Bool.eq_false_iff]
  intro hwhole
  have hfract := (isWhole_iff hfinite).1 hwhole
  rw [Int.fract_eq_self.2 ⟨hpos.le, hless⟩] at hfract
  exact hpos.ne' hfract

end Binary

/-! ## Expansions -/

namespace Convergents

variable {target : Float} {state : Convergents} {terms : ℕ} {x : ℚ}

/-- A remainder can be infinite only if the reciprocal of the target is. -/
theorem Reached.le_of_not_isFinite (h : Reached target terms state) (hx : Denotes target x)
    (hinfinite : state.remainder.isFinite = false) : x ≤ 2 ^ (-1024 : ℤ) := by
  cases h with
  | start =>
      have hfinite : (Convergents.start target).remainder.isFinite = true := hx.isFinite
      rw [hfinite] at hinfinite
      cases hinfinite
  | @next terms state hreached hgoes =>
      obtain ⟨hdenotes, hone⟩ := hreached.denotes_remainder hx hgoes.isFinite
      have hpos := hgoes.fract_pos
      have hoverflow : overflow ≤ 1 / Int.fract (magnitude state.remainder) := by
        rw [remainder_next hdenotes hpos.ne', Bool.eq_false_iff] at hinfinite
        exact not_lt.1 (mt (isFinite_pack_rounded (by positivity) .positive).2 hinfinite)
      have hless : magnitude state.remainder < 1 := by
        by_contra hle
        exact absurd (one_div_fract_lt_overflow hdenotes.isBinary (not_lt.1 hle) hpos)
          (not_lt.2 hoverflow)
      -- so it was the first remainder, the target itself
      have hfirst : terms = 0 := by
        by_contra hterms
        exact absurd (hone hterms) (not_le.2 hless)
      subst hfirst
      cases hreached
      have hmagnitude : magnitude (Convergents.start target).remainder = x := hx.magnitude_eq
      rw [hmagnitude] at hoverflow hless
      rw [Int.fract_eq_self.2 ⟨hx.pos.le, hless⟩] at hoverflow
      exact (overflow_le_one_div_iff hx.isBinary hx.pos).1 hoverflow

/-- The first term of a target below 1 is zero, and the expansion goes on. -/
theorem goesOn_start (hx : Denotes target x) (hless : x < 1) : GoesOn target (start target) := by
  have hfinite : (start target).remainder.isFinite = true := hx.isFinite
  have hpart : wholePart target = 0 := by
    have hfloor := wholePart_eq target
    rw [hx.magnitude_eq, Int.floor_eq_zero_iff.2 ⟨hx.pos.le, hless⟩] at hfloor
    exact_mod_cast hfloor
  have hnumerator : (start target).next.numerator = 0 := by
    show wholePart target * 1 + 0 = 0
    rw [hpart]
  have hdenominator : (start target).next.denominator = 1 := rfl
  have hwhole : isWhole target = false := by
    rw [← hx.magnitude_eq] at hless
    exact isWhole_of_lt_one hx.isFinite (hx.magnitude_eq ▸ hx.pos) hless
  refine ⟨hfinite, ?_, ?_, hwhole⟩
  · rw [hnumerator, hdenominator]
    exact not_isClose_zero hx
  · rw [hdenominator]
    decide

/-- An expansion breaks down exactly if the reciprocal of its target is infinite. -/
theorem expand_eq_infinite_iff (hx : Denotes target x) :
    expand target expansionTerms (start target) = .infinite ↔ x ≤ 2 ^ (-1024 : ℤ) := by
  constructor
  · intro h
    rcases Reached.start.expand_cases expansionTerms with
      ⟨terms, last, hreached, hinfinite, -⟩ | ⟨_, _, -, -, -, hlast⟩ | ⟨_, -, hlast⟩
    · exact hreached.le_of_not_isFinite hx hinfinite
    · rw [h] at hlast
      cases hlast
    · rw [h] at hlast
      cases hlast
  · intro hle
    have hless : x < 1 := hle.trans_lt (zpow_lt_one_of_neg₀ (by norm_num) (by norm_num))
    have hgoes := goesOn_start hx hless
    have hreached := Reached.start.next hgoes
    have hinfinite : (start target).next.remainder.isFinite = false := by
      have hmagnitude : Denotes (start target).remainder x := hx
      have hfract : Int.fract x = x := Int.fract_eq_self.2 ⟨hx.pos.le, hless⟩
      have hoverflow := (overflow_le_one_div_iff hx.isBinary hx.pos).2 hle
      rw [remainder_next hmagnitude (by rw [hfract]; exact hx.pos.ne'), hfract,
        nearestFloat_eq_infinity_of_le hoverflow]
      decide
    have hends : ¬ GoesOn target (start target).next := by
      intro hnext
      rw [hnext.isFinite] at hinfinite
      cases hinfinite
    rw [hreached.expand_of_ends hends (by decide), step_of_not_isFinite hinfinite]

end Convergents

/-! ## Values -/

variable {v : Float} {places : ℕ} {precision : Precision} {breakdown : Breakdown}

/-- Whether a value is so small that its reciprocal is infinite, but not zero. -/
structure TooSmall (v : Float) : Prop where
  isFinite : v.isFinite = true
  pos : 0 < magnitude v
  le : magnitude v ≤ 2 ^ (-1024 : ℤ)

theorem TooSmall.lt_one (h : TooSmall v) : magnitude v < 1 :=
  h.le.trans_lt (zpow_lt_one_of_neg₀ (by norm_num) (by norm_num))

/-- Such a value may have a fraction hint. -/
theorem TooSmall.hasFraction (h : TooSmall v) : hasFraction v = true := by
  have hlarge : ¬ v.abs > fractionMagnitude := by
    have habs : v.abs.isFinite = true := by rw [isFinite_abs, h.isFinite]
    rw [gt_iff_lt, lt_iff denotes_fractionMagnitude.isFinite habs,
      denotes_fractionMagnitude.value_eq, value_abs h.isFinite]
    linarith [h.lt_one]
  have hwhole : isWhole v = false := isWhole_of_lt_one h.isFinite h.pos h.lt_one
  simp [DeskCalculator.hasFraction, h.isFinite, hlarge, hwhole]

theorem Expansion.hint_eq_error_iff {expansion : Expansion} {isNegative : Bool} :
    expansion.hint isNegative = .error breakdown ↔
      expansion = .infinite ∧ breakdown = .infiniteReciprocal := by
  cases expansion with
  | infinite =>
      constructor
      · intro h
        exact ⟨rfl, (Except.error.inj h).symm⟩
      · rintro ⟨-, rfl⟩
        rfl
  | unfinished state => exact iff_of_false nofun nofun
  | found numerator denominator =>
      rw [hint_found]
      split_ifs <;> exact iff_of_false nofun nofun

/-- The fraction hint breaks down exactly for values that are too small. -/
theorem fractionHint_eq_error_iff :
    fractionHint v = .error breakdown ↔ TooSmall v ∧ breakdown = .infiniteReciprocal := by
  cases hfraction : hasFraction v with
  | false =>
      rw [fractionHint_of_not_hasFraction hfraction]
      refine iff_of_false nofun fun h => ?_
      rw [h.1.hasFraction] at hfraction
      cases hfraction
  | true =>
      have hdenotes := (denotes_of_hasFraction hfraction).1
      have hfinite : v.isFinite = true := by rw [← isFinite_abs, hdenotes.isFinite]
      rw [fractionHint_eq hfraction, Expansion.hint_eq_error_iff,
        Convergents.expand_eq_infinite_iff hdenotes]
      exact and_congr_left' ⟨fun hle => ⟨hfinite, hdenotes.pos, hle⟩, TooSmall.le⟩

/-- A value that is rounded is zero, or at least about as large as the unit. -/
theorem not_tooSmall_rounding (hplaces : places ≤ 8) (hsmall : magnitude v < 10 ^ 21) :
    ¬ TooSmall (rounding places v) := by
  intro h
  obtain ⟨n, hn⟩ := exists_roundedTo_eq (magnitude_nonneg v) places
  have hpos := h.pos
  have hle := h.le
  rw [magnitude_rounding hsmall, hn] at hpos hle
  rcases Nat.eq_zero_or_pos n with rfl | hone
  · rw [Nat.cast_zero, zero_div, nearest_zero] at hpos
    exact lt_irrefl 0 hpos
  · have hcast : (1 : ℚ) ≤ n := by exact_mod_cast hone
    have hunit : (2 : ℚ) ^ (-27 : ℤ) ≤ n / 10 ^ places := by
      calc (2 : ℚ) ^ (-27 : ℤ) ≤ 1 / 10 ^ 8 := by norm_num
        _ ≤ n / 10 ^ places :=
            div_le_div₀ (by linarith) hcast (by positivity)
              (pow_le_pow_right₀ (by norm_num) hplaces)
    have hnearest : (2 : ℚ) ^ (-27 : ℤ) ≤ nearest (n / 10 ^ places) :=
      IsBinary.le_nearest ⟨1, -27, by norm_num, by norm_num, by norm_num⟩ (by positivity) hunit
    have hpower : (2 : ℚ) ^ (-1024 : ℤ) < 2 ^ (-27 : ℤ) :=
      zpow_lt_zpow_right₀ (by norm_num) (by norm_num)
    exact absurd (hnearest.trans hle) (not_le.2 hpower)

/-- Rounding to at most eight places succeeds, and leaves nothing that is too small. -/
theorem exists_roundTo (hplaces : places ≤ 8) (v : Float) :
    ∃ w, roundTo v (some places) = .ok w ∧ ¬ TooSmall w := by
  by_cases hsmall : v.isFinite = true ∧ magnitude v < 10 ^ 21
  · exact ⟨_, roundTo_eq hplaces hsmall.1 hsmall.2, not_tooSmall_rounding hplaces hsmall.2⟩
  · refine ⟨v, roundTo_eq_self hsmall, fun h => hsmall ⟨h.isFinite, ?_⟩⟩
    linarith [h.lt_one]

/-! ## Entries -/

theorem bind_ok_eq_error_iff {ε α β : Type} {first : Except ε α} {next : α → β} {failure : ε} :
    (first.bind fun x => .ok (next x)) = .error failure ↔ first = .error failure := by
  cases first with
  | ok x => exact iff_of_false nofun nofun
  | error other =>
      constructor
      · intro h
        cases h
        rfl
      · intro h
        cases h
        rfl

/-- A presentation breaks down with the fraction hint of the rounded value. -/
theorem present_of_roundTo {w : Float} (hround : roundTo v precision = .ok w) :
    present v precision = .error breakdown ↔ fractionHint w = .error breakdown := by
  have hpresent : present v precision =
      (fractionHint w).bind fun fraction => .ok ⟨w, displayText w, fraction⟩ := by
    rw [present, hround]
    rfl
  rw [hpresent, bind_ok_eq_error_iff]

private theorem present_eq_error_iff (hprecision : ∀ places ∈ precision, 0 ≤ places ∧ places ≤ 8) :
    present v precision = .error breakdown ↔
      precision = none ∧ TooSmall v ∧ breakdown = .infiniteReciprocal := by
  cases precision with
  | none =>
      have hround : roundTo v none = .ok v := rfl
      rw [present_of_roundTo hround, fractionHint_eq_error_iff, eq_self_iff_true, true_and]
  | some places =>
      obtain ⟨hnonneg, hle⟩ := hprecision places rfl
      obtain ⟨places, rfl⟩ := Int.eq_ofNat_of_zero_le hnonneg
      obtain ⟨w, hround, hlarge⟩ := exists_roundTo (Int.ofNat_le.1 hle) v
      rw [present_of_roundTo hround, fractionHint_eq_error_iff]
      exact iff_of_false (fun h => hlarge h.1) nofun

/-- An entry without a value has a fault. -/
theorem faultsOnly_entryValue (entry : String) : Expr.FaultsOnly (entryValue entry) := by
  refine (Expr.faultsOnly_mapError _).bind fun checked => ?_
  refine ((Expr.faultsOnly_mapError _).bind fun e => Expr.faultsOnly_evaluate [] e).bind fun v => ?_
  split
  · exact Expr.faultsOnly_ok _
  · exact Expr.faultsOnly_fault _

/-- Evaluating an entry breaks down if the entry has a value that cannot be presented. -/
theorem evaluateEntry_of_entryValue {entry expression : String}
    (hvalue : entryValue entry = .ok (expression, v)) :
    evaluateEntry entry precision = .error (.breakdown breakdown) ↔
      present v precision = .error breakdown := by
  have hevaluate : evaluateEntry entry precision =
      ((present v precision).mapError .breakdown).bind fun result =>
        .ok ⟨expression, result⟩ := by
    rw [evaluateEntry, hvalue]
    rfl
  rw [hevaluate, bind_ok_eq_error_iff]
  cases present v precision <;> simp [Except.mapError]

/-- Evaluating an entry breaks down if no rounding is asked for and the value is too small: the first
reciprocal of the expansion is infinite then. -/
theorem evaluateEntry_eq_breakdown_iff {entry : String}
    (hprecision : ∀ places ∈ precision, 0 ≤ places ∧ places ≤ 8) :
    evaluateEntry entry precision = .error (.breakdown breakdown) ↔
      precision = none ∧ breakdown = .infiniteReciprocal ∧
        ∃ expression v, entryValue entry = .ok (expression, v) ∧ TooSmall v := by
  cases hvalue : entryValue entry with
  | error failure =>
      obtain ⟨fault, rfl⟩ := faultsOnly_entryValue entry failure hvalue
      have hfault : evaluateEntry entry precision = .error (.fault fault) := by
        rw [evaluateEntry, hvalue]
        rfl
      rw [hfault]
      constructor
      · intro h
        cases h
      · rintro ⟨-, -, expression, v, hfound, -⟩
        cases hfound
  | ok found =>
      obtain ⟨expression, v⟩ := found
      rw [evaluateEntry_of_entryValue hvalue, present_eq_error_iff hprecision]
      constructor
      · rintro ⟨hnone, hsmall, hbreakdown⟩
        exact ⟨hnone, hbreakdown, expression, v, rfl, hsmall⟩
      · rintro ⟨hnone, hbreakdown, _, _, hfound, hsmall⟩
        cases hfound
        exact ⟨hnone, hsmall, hbreakdown⟩

/-- Evaluating an entry gives a result or a fault, unless no rounding is asked for and the value is
too small. -/
theorem evaluateEntry_completes_iff {entry : String}
    (hprecision : ∀ places ∈ precision, 0 ≤ places ∧ places ≤ 8) :
    ((∃ evaluation, evaluateEntry entry precision = .ok evaluation) ∨
      ∃ fault, evaluateEntry entry precision = .error (.fault fault)) ↔
        ¬ (precision = none ∧
          ∃ expression v, entryValue entry = .ok (expression, v) ∧ TooSmall v) := by
  constructor
  · rintro hcompletes ⟨hnone, hvalue⟩
    have hfails := (evaluateEntry_eq_breakdown_iff hprecision).2 ⟨hnone, rfl, hvalue⟩
    rw [hfails] at hcompletes
    rcases hcompletes with ⟨evaluation, h⟩ | ⟨fault, h⟩ <;> cases h
  · intro hlarge
    cases houtcome : evaluateEntry entry precision with
    | ok evaluation => exact .inl ⟨evaluation, rfl⟩
    | error failure =>
        cases failure with
        | fault fault => exact .inr ⟨fault, rfl⟩
        | breakdown breakdown =>
            obtain ⟨hnone, -, hvalue⟩ := (evaluateEntry_eq_breakdown_iff hprecision).1 houtcome
            exact absurd ⟨hnone, hvalue⟩ hlarge

/-- Where `1e-310` is rounded to two places, its evaluation completes. -/
theorem evaluateEntry_completes_iff_tiny :
    (∀ places ∈ (some 2 : Precision), 0 ≤ places ∧ places ≤ 8) ∧
      ((∃ evaluation, evaluateEntry "1e-310" (some 2) = .ok evaluation) ∨
        ∃ fault, evaluateEntry "1e-310" (some 2) = .error (.fault fault)) := by
  have hprecision : ∀ places ∈ (some 2 : Precision), 0 ≤ places ∧ places ≤ 8 := by
    rintro places ⟨⟩
    decide
  exact ⟨hprecision, (evaluateEntry_completes_iff hprecision).2 fun h => nomatch h.1⟩

/-- Where it is not, its evaluation gives neither a result nor a fault. -/
theorem tiny_entry_breaks_down :
    ¬ ((∃ evaluation, evaluateEntry "1e-310" none = .ok evaluation) ∨
      ∃ fault, evaluateEntry "1e-310" none = .error (.fault fault)) := by
  have hvalue : (entryValue "1e-310").toOption = some ("1e-310", 1e-310) := by decide +kernel
  have hhint : fractionHint 1e-310 = .error .infiniteReciprocal := by decide +kernel
  cases hentry : entryValue "1e-310" with
  | error failure =>
      rw [hentry] at hvalue
      cases hvalue
  | ok found =>
      obtain rfl : found = ("1e-310", 1e-310) := Option.some.inj (by rwa [hentry] at hvalue)
      have hround : roundTo 1e-310 none = .ok 1e-310 := rfl
      have hbreaks := (evaluateEntry_of_entryValue hentry).2 ((present_of_roundTo hround).2 hhint)
      rintro (⟨evaluation, h⟩ | ⟨fault, h⟩) <;> cases hbreaks.symm.trans h

end DeskCalculator
