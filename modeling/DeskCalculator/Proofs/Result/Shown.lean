import DeskCalculator.Proofs.Entry.Agreement
import DeskCalculator.Proofs.Json.Writable
import DeskCalculator.Proofs.Result.Display

/-!
# What evaluating shows can be sent

The result of an evaluation and its fraction hint are made of ASCII characters other
than the space (`isShown_of_evaluateEntry`), so they can be sent and no result looks
like the label of a failure, each of which has a space in it
(`ofLabel?_of_isShown`).  The expression that is noted with the result can be sent as
well: no half of a surrogate pair gets past the scanner
(`isEncodable_of_evaluateEntry`).
-/

namespace DeskCalculator

open Text

/-! ## Characters of results -/

/-- The characters that results are shown with. -/
def isShown (c : Char) : Bool := decide (c.toNat < 128) && c != ' '

theorem isShown_of_isDigit {c : Char} (h : c.isDigit = true) : isShown c = true := by
  obtain ⟨hlow, hhigh⟩ := Entry.toNat_of_isDigit.1 h
  have hspace : c ≠ ' ' := by
    rintro rfl
    cases h
  simp only [isShown, Bool.and_eq_true, decide_eq_true_eq, bne_iff_ne]
  exact ⟨by omega, hspace⟩

private theorem isShown_of_isNumeric {c : Char} (h : isNumeric c = true) : isShown c = true := by
  rw [isNumeric, Bool.or_eq_true] at h
  rcases h with hdigit | hother
  · exact isShown_of_isDigit hdigit
  · have hall : ∀ c ∈ ['.', 'e', '+', '-'], isShown c = true := by simp [isShown]
    exact hall c (by simpa using hother)

theorem isEncodable_of_isShown [Platform] {text : List Char} (h : ∀ c ∈ text, isShown c = true) :
    isEncodable text = true := by
  refine isEncodable_of_ascii fun c hc => ?_
  have hc := h c hc
  simp only [isShown, Bool.and_eq_true, decide_eq_true_eq] at hc
  exact hc.1

/-- Nothing that is shown as a result is the label of a failure. -/
theorem ofLabel?_of_isShown {text : String} (h : ∀ c ∈ text.toList, isShown c = true) :
    FaultKind.ofLabel? text = none := by
  rw [Option.eq_none_iff_forall_ne_some]
  intro kind hkind
  have hlabel := FaultKind.label_eq_of_ofLabel? hkind
  have hspace : ' ' ∈ kind.label.toList := by
    cases kind <;> decide
  rw [hlabel] at hspace
  cases h ' ' hspace

/-! ## Results and hints -/

private theorem isShown_displayText (v : Float) :
    ∀ c ∈ (displayText v).toList, isShown c = true := by
  cases hfinite : v.isFinite with
  | true => exact fun c hc => isShown_of_isNumeric (isNumeric_of_mem_displayText hfinite hc)
  | false =>
      have hall : ∀ text ∈ ["NaN", "Infinity", "-Infinity"], ∀ c ∈ text.toList,
          isShown c = true := by
        simp [isShown]
      exact hall _ (displayText_mem_of_not_isFinite hfinite)

private theorem isShown_of_fractionHint {v : Float} {text : String}
    (h : fractionHint v = .ok (some text)) : ∀ c ∈ text.toList, isShown c = true := by
  have hdigits : ∀ n : ℕ, ∀ c ∈ (toString n).toList, isShown c = true := by
    intro n c hc
    rw [Nat.toString_eq_ofList_toDigits, String.toList_ofList] at hc
    exact isShown_of_isDigit (Nat.isDigit_of_mem_toDigits (by decide) (le_refl 10) hc)
  have hsign : ∀ c ∈ (if v < 0.0 then "-" else "").toList, isShown c = true := by
    split_ifs <;> simp [isShown]
  have hslash : ∀ c ∈ "/".toList, isShown c = true := by simp [isShown]
  unfold fractionHint at h
  split at h
  · cases h
  split at h
  · next numerator denominator _ =>
      split at h
      · cases h
      · cases h
        intro c hc
        simp only [String.toList_append, List.mem_append] at hc
        rcases hc with ((hc | hc) | hc) | hc
        · exact hsign c hc
        · exact hdigits numerator c hc
        · exact hslash c hc
        · exact hdigits denominator c hc
  · cases h
  · cases h

/-- What an evaluation shows is made of these characters. -/
theorem isShown_of_evaluateEntry {entry : String} {precision : Precision} {evaluation : Evaluation}
    (h : evaluateEntry entry precision = .ok evaluation) :
    (∀ c ∈ evaluation.result.display.toList, isShown c = true) ∧
      ∀ text, evaluation.result.fraction = some text → ∀ c ∈ text.toList, isShown c = true := by
  obtain ⟨v, -, hpresent⟩ := evaluateEntry_eq_ok_iff.1 h
  obtain ⟨expression, result⟩ := evaluation
  obtain ⟨rounded, -, hpresent⟩ := Expr.bind_eq_ok hpresent
  obtain ⟨hint, hhint, hpresent⟩ := Expr.bind_eq_ok hpresent
  cases hpresent
  refine ⟨isShown_displayText rounded, fun text htext => ?_⟩
  change hint = some text at htext
  subst htext
  exact isShown_of_fractionHint hhint

/-! ## Halves of surrogate pairs -/

namespace Text

variable [Platform] {c : Char}

/-- The halves stand in planes in which there are no other characters. -/
theorem inRanges_of_isHalf (h : isHalf c = true) :
    inRanges [(0x40000, 0xDFFFF)] c.toNat = true := by
  have hlow := Platform.le_firstHalf
  have hhigh := Platform.firstHalf_le
  simp only [isHalf, Bool.and_eq_true, decide_eq_true_eq] at h
  simp only [inRanges, List.any_cons, List.any_nil, Bool.or_false, Bool.and_eq_true,
    decide_eq_true_eq]
  omega

private theorem not_isBlank_of_isHalf (h : isHalf c = true) : isBlank c = false :=
  Entry.not_inRanges_of_apart (by decide +kernel) (inRanges_of_isHalf h)

theorem not_isDigit_of_isHalf (h : isHalf c = true) : isDigit c = false := by
  have hapart : ∀ range ∈ digitZeros.map fun first => (first, first + 9),
      ∀ other ∈ [(0x40000, 0xDFFFF)], range.2 < other.1 ∨ other.2 < range.1 := by
    decide +kernel
  rw [Bool.eq_false_iff]
  intro hdigit
  have hapart := Entry.not_inRanges_of_apart hapart (Entry.inRanges_of_isDigit hdigit)
  rw [inRanges_of_isHalf h] at hapart
  cases hapart

private theorem notMem_of_isHalf {chars : List Char} (hchars : ∀ d ∈ chars, d.toNat < 0x40000)
    (h : isHalf c = true) : c ∉ chars := by
  intro hmem
  rw [isHalf_eq_false (hchars c hmem)] at h
  cases h

private theorem not_isWord_of_isHalf (h : isHalf c = true) : isWord c = false := by
  have hbeyond : ¬ c.toNat < 128 := fun hlow => by
    rw [isHalf_eq_false (hlow.trans (by decide))] at h
    cases h
  rw [isWord, if_neg hbeyond]
  exact Entry.not_inRanges_of_apart (by decide +kernel) (inRanges_of_isHalf h)

end Text

/-! ## Expressions -/

namespace Token

/-- A character that is in no token and is no blank is nowhere in a text that has been scanned. -/
theorem Scanned.notMem {c : Char} {text : List Char} {tokens : List Token}
    (hnumeral : isNumeral c = false) (hword : isWord c = false) (hsymbol : c ∉ symbols)
    (hblank : isBlank c = false) (h : Scanned text tokens) : c ∉ text := by
  induction h with
  | nil => exact List.not_mem_nil
  | token position chunk others ih =>
      rw [List.mem_append, not_or]
      refine ⟨fun hmem => ?_, ih⟩
      cases chunk with
      | number mem ne =>
          rw [mem c hmem] at hnumeral
          cases hnumeral
      | name mem ne stop =>
          rw [mem c hmem] at hword
          cases hword
      | power =>
          have hstar : c = '*' := by simpa using hmem
          exact hsymbol (hstar ▸ by decide)
      | symbol mem => exact hsymbol (List.mem_singleton.1 hmem ▸ mem)
  | blank hd others ih =>
      rw [List.mem_cons, not_or]
      refine ⟨?_, ih⟩
      rintro rfl
      rw [hd] at hblank
      cases hblank

end Token

namespace Entry

/-- A character that no rule replaces stays in the text. -/
theorem Quiet.mem_replaceAll {rule : Rule} (quiet : Quiet rule) {c : Char}
    (hc : isReplaced c = false) {text : List Char} (hmem : c ∈ text) (previous : Option Char) :
    c ∈ replaceAll rule previous text := by
  obtain ⟨before, rest, htext⟩ := List.append_of_mem hmem
  obtain ⟨written, hwritten⟩ := quiet.replaceAll_append hc rest text previous before htext
  rw [hwritten]
  exact List.mem_append_right _ List.mem_cons_self

private theorem mem_canonical {c : Char} (hc : isReplaced c = false) {text : List Char}
    (hmem : c ∈ text) :
    c ∈ canonical text :=
  quiet_factorialSign.mem_replaceAll hc (quiet_powerSign.mem_replaceAll hc
    (quiet_eulerSign.mem_replaceAll hc (quiet_circleSign.mem_replaceAll hc
      (quiet_barePercent.mem_replaceAll hc (quiet_percentOfBase.mem_replaceAll hc hmem none)
        none) none) none) none) none

/-- No half of a surrogate pair is in an entry whose canonical form has a value. -/
theorem isEncodable_of_evaluateCanonical [Platform] {text : List Char} {v : Float}
    (h : evaluateCanonical (String.ofList (canonical text)) [] = .ok v) :
    isEncodable text = true := by
  obtain ⟨tokens, -, hscanned, -, -⟩ := exists_sum_of_evaluateCanonical h
  refine isEncodable_iff.2 fun c hc => Bool.eq_false_iff.2 fun hhalf => ?_
  have hnumeral : Token.isNumeral c = false := by
    rw [Token.isNumeral, not_isDigit_of_isHalf hhalf]
    exact decide_eq_false (notMem_of_isHalf (by simp) hhalf)
  have hsymbol : c ∉ Token.symbols := notMem_of_isHalf (by simp [Token.symbols]) hhalf
  have hreplaced : isReplaced c = false := by
    rw [isReplaced, not_isDigit_of_isHalf hhalf, not_isBlank_of_isHalf hhalf]
    exact decide_eq_false (notMem_of_isHalf (by simp) hhalf)
  have hnowhere : c ∉ canonical text :=
    hscanned.notMem hnumeral (not_isWord_of_isHalf hhalf) hsymbol (not_isBlank_of_isHalf hhalf)
  exact hnowhere (mem_canonical hreplaced hc)

end Entry

/-- The expression that has been evaluated can be encoded. -/
theorem isEncodable_of_evaluateEntry [Platform] {entry : String} {precision : Precision}
    {evaluation : Evaluation} (h : evaluateEntry entry precision = .ok evaluation) :
    isEncodable evaluation.expression.toList = true := by
  obtain ⟨v, hvalue, -⟩ := evaluateEntry_eq_ok_iff.1 h
  obtain ⟨checked, -, hvalue⟩ := Expr.bind_eq_ok hvalue
  obtain ⟨value, hcanonical, hvalue⟩ := Expr.bind_eq_ok hvalue
  split at hvalue
  · obtain ⟨hexpression, -⟩ := Prod.mk.inj (Except.ok.inj hvalue)
    rw [← hexpression, String.toList_ofList]
    exact Entry.isEncodable_of_evaluateCanonical hcanonical
  · cases hvalue

end DeskCalculator
