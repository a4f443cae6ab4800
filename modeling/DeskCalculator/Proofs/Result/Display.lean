import DeskCalculator.Evaluation
import DeskCalculator.Proofs.Expr.Machine
import DeskCalculator.Proofs.Float.Sign
import Mathlib

/-!
# The characters of a displayed result

A finite float is displayed by ASCII digits, signs, a decimal point and the mark
of an exponent (`isNumeric_of_mem_displayText`).  A value with a fraction hint is
finite, so that is true of everything that is shown beside a hint
(`isNumeric_of_evaluateEntry`).
-/

namespace DeskCalculator

/-! ## Numbers as they are laid out -/

/-- The characters of which numbers are made. -/
def isNumeric (c : Char) : Bool :=
  c.isDigit || c ∈ ['.', 'e', '+', '-']

namespace Layout

theorem isNumeric_of_mem_zeros {count : Int} {c : Char} (hc : c ∈ zeros count) :
    isNumeric c = true := by
  rw [List.eq_of_mem_replicate hc]
  decide

theorem isNumeric_of_mem_toDigits {n : Nat} {c : Char} (hc : c ∈ Nat.toDigits 10 n) :
    isNumeric c = true := by
  simp [isNumeric, Nat.isDigit_of_mem_toDigits (by decide) (le_refl 10) hc]

variable {layout : Layout} {digits : List Char} {point : Int} {c : Char}

private theorem isNumeric_of_mem_positional
    (htail : ∀ c ∈ layout.wholeTail.toList, isNumeric c = true)
    (hdigits : ∀ c ∈ digits, isNumeric c = true) (hc : c ∈ layout.positional digits point) :
    isNumeric c = true := by
  unfold positional at hc
  split_ifs at hc
  · rcases List.mem_cons.1 hc with rfl | hc
    · decide
    rcases List.mem_cons.1 hc with rfl | hc
    · decide
    exact (List.mem_append.1 hc).elim isNumeric_of_mem_zeros (hdigits c)
  · rcases List.mem_append.1 hc with hc | hc
    · exact (List.mem_append.1 hc).elim (hdigits c) isNumeric_of_mem_zeros
    · exact htail c hc
  · rcases List.mem_append.1 hc with hc | hc
    · exact hdigits c (List.mem_of_mem_take hc)
    rcases List.mem_cons.1 hc with rfl | hc
    · decide
    · exact hdigits c (List.mem_of_mem_drop hc)

private theorem isNumeric_of_mem_scientific (hdigits : ∀ c ∈ digits, isNumeric c = true)
    (hc : c ∈ layout.scientific digits point) : isNumeric c = true := by
  unfold scientific at hc
  simp only at hc
  rcases List.mem_append.1 hc with hc | hc
  · rcases List.mem_append.1 hc with hc | hc
    · exact hdigits c (List.mem_of_mem_take hc)
    split_ifs at hc
    · cases hc
    rcases List.mem_cons.1 hc with rfl | hc
    · decide
    · exact hdigits c (List.mem_of_mem_drop hc)
  · rcases List.mem_cons.1 hc with rfl | hc
    · decide
    rcases List.mem_cons.1 hc with rfl | hc
    · split_ifs <;> decide
    · exact (List.mem_append.1 hc).elim isNumeric_of_mem_zeros isNumeric_of_mem_toDigits

theorem isNumeric_of_mem_magnitude {d : Decimal}
    (htail : ∀ c ∈ layout.wholeTail.toList, isNumeric c = true)
    (hc : c ∈ layout.magnitude d) : isNumeric c = true := by
  have hdigits : ∀ c ∈ d.digits, isNumeric c = true := fun c => isNumeric_of_mem_toDigits
  unfold magnitude at hc
  split_ifs at hc
  · exact isNumeric_of_mem_positional htail hdigits hc
  · exact isNumeric_of_mem_scientific hdigits hc

end Layout

/-! ## The display -/

theorem isNumeric_of_mem_displayText {v : Float} (h : v.isFinite = true) {c : Char}
    (hc : c ∈ (displayText v).toList) : isNumeric c = true := by
  unfold displayText Layout.write at hc
  simp only [Binary.kind_of_isFinite h, Bool.false_eq_true, if_false] at hc
  split at hc
  · have hchar : c = '0' := by simpa [displayLayout] using hc
    rw [hchar]
    decide
  · rw [String.toList_append, String.toList_ofList] at hc
    rcases List.mem_append.1 hc with hc | hc
    · split_ifs at hc
      · have hchar : c = '-' := by simpa using hc
        rw [hchar]
        decide
      · cases hc
    · exact Layout.isNumeric_of_mem_magnitude (by simp [displayLayout]) hc

/-- The floats that are not finite have texts of their own. -/
theorem displayText_mem_of_not_isFinite {v : Float} (h : v.isFinite = false) :
    displayText v ∈ ["NaN", "Infinity", "-Infinity"] := by
  by_cases hnan : v.isNaN = true
  · have htext : displayText v = "NaN" := if_pos hnan
    simp [htext]
  by_cases hinf : v.isInf = true
  · have htexts : displayText (1.0 / 0.0) = "Infinity" ∧
        displayText (-1.0 / 0.0) = "-Infinity" := by
      decide +kernel
    rcases Binary.eq_of_isInf hinf with rfl | rfl
    · simp [htexts.1]
    · simp [htexts.2]
  have hfinite : v.isFinite = true :=
    Binary.isFinite_of_kind (Bool.eq_false_iff.2 hnan) (Bool.eq_false_iff.2 hinf)
  exact absurd hfinite (Bool.eq_false_iff.1 h)

/-- Only a finite value has a fraction hint. -/
theorem isFinite_of_fractionHint {v : Float} {text : String}
    (h : fractionHint v = .ok (some text)) : v.isFinite = true := by
  by_contra hfinite
  have hnone : hasFraction v = false := by simp [hasFraction, hfinite]
  simp [fractionHint, hnone] at h

private theorem isNumeric_of_present {v : Float} {precision : Precision} {result : Presentation}
    (h : present v precision = .ok result) (hfraction : result.fraction ≠ none) :
    ∀ c ∈ result.display.toList, isNumeric c = true := by
  obtain ⟨rounded, -, h⟩ := Expr.bind_eq_ok h
  obtain ⟨hint, hhint, h⟩ := Expr.bind_eq_ok h
  cases h
  obtain ⟨text, rfl⟩ := Option.ne_none_iff_exists'.1 hfraction
  intro c hc
  exact isNumeric_of_mem_displayText (isFinite_of_fractionHint hhint) hc

/-- An entry is evaluated if it has a value and that value can be presented. -/
theorem evaluateEntry_eq_ok_iff {entry : String} {precision : Precision} {evaluation : Evaluation} :
    evaluateEntry entry precision = .ok evaluation ↔
      ∃ v, entryValue entry = .ok (evaluation.expression, v) ∧
        present v precision = .ok evaluation.result := by
  constructor
  · intro h
    obtain ⟨⟨expression, v⟩, hvalue, h⟩ := Expr.bind_eq_ok h
    obtain ⟨result, hresult, h⟩ := Expr.bind_eq_ok h
    cases h
    exact ⟨v, hvalue, Expr.mapError_eq_ok hresult⟩
  · rintro ⟨v, hvalue, hresult⟩
    rw [evaluateEntry, hvalue]
    show (((present v precision).mapError _).bind fun result => _) = _
    rw [hresult]
    rfl

/-- What is displayed is the text of a float. -/
theorem exists_displayText_of_evaluateEntry {entry : String} {precision : Precision}
    {evaluation : Evaluation} (h : evaluateEntry entry precision = .ok evaluation) :
    ∃ v, evaluation.result.display = displayText v := by
  obtain ⟨value, -, hpresent⟩ := evaluateEntry_eq_ok_iff.1 h
  obtain ⟨rounded, -, hpresent⟩ := Expr.bind_eq_ok hpresent
  obtain ⟨hint, -, hpresent⟩ := Expr.bind_eq_ok hpresent
  exact ⟨rounded, congrArg Presentation.display (Except.ok.inj hpresent).symm⟩

/-- What is displayed beside a fraction hint is made of the characters of numbers. -/
theorem isNumeric_of_evaluateEntry {entry : String} {precision : Precision}
    {evaluation : Evaluation} (h : evaluateEntry entry precision = .ok evaluation)
    (hfraction : evaluation.result.fraction ≠ none) :
    ∀ c ∈ evaluation.result.display.toList, isNumeric c = true := by
  obtain ⟨v, -, hpresent⟩ := evaluateEntry_eq_ok_iff.1 h
  exact isNumeric_of_present hpresent hfraction

end DeskCalculator
