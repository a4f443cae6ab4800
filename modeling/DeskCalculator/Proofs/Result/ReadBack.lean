import DeskCalculator.Proofs.Decimal.Numeral
import DeskCalculator.Proofs.Entry.Preserved
import DeskCalculator.Proofs.Result.Display
import DeskCalculator.Proofs.Surface.Neighbours

/-!
# A displayed number is read back

The text of a finite float stays on the display, and the next calculation starts
from it.  This file proves that nothing drifts: the text passes the checks, no
pass changes it, it has one number token behind at most a minus, and it evaluates
to the float that it was written for (`displayText_reads_back`).

## Strategy

* The text is a numeral behind at most a minus (`exists_numeral_of_displayText`).
* A pass whose match needs a character that no number has changes nothing
  (`Needs.replaceAll_eq`).  The one exception looks for the letter of an exponent,
  and a digit always precedes that letter (`replaceAll_eulerSign`).
* The scanner takes the whole numeral for one token, which is read as a decimal
  that stands for the same number as the shortest one (`Layout.writes_magnitude`).
-/

namespace DeskCalculator

open Text Entry Surface

namespace SignedNumeral

/-! ## Its characters -/

private theorem isNumeric_of_isDigit {c : Char} (h : c.isDigit = true) : isNumeric c = true := by
  rw [isNumeric, h, Bool.true_or]

theorem isNumeric_of_mem {n : SignedNumeral} {c : Char} (hc : c ∈ n.chars) :
    isNumeric c = true := by
  rcases List.mem_append.1 hc with hc | hc
  · unfold minus at hc
    split_ifs at hc
    · rw [List.mem_singleton.1 hc]
      decide
    · cases hc
  rcases List.mem_append.1 hc with hc | hc
  · rcases Literal.of_mem_chars hc with hdigit | rfl
    · exact isNumeric_of_isDigit hdigit
    · decide
  · cases hpower : n.numeral.power with
    | none => simp [hpower] at hc
    | some p =>
        rw [hpower, Option.elim_some] at hc
        rcases List.mem_cons.1 hc with rfl | hc
        · decide
        rcases List.mem_cons.1 hc with rfl | hc
        · unfold Power.sign
          split_ifs <;> decide
        · exact isNumeric_of_isDigit (p.isDigit_digits c hc)

/-- A signed numeral ends in a digit. -/
theorem isDigit_of_getLast {n : SignedNumeral} {c : Char} (hc : c ∈ n.chars.getLast?) :
    c.isDigit = true := by
  rw [chars, List.getLast?_append_of_ne_nil _ n.numeral.chars_ne_nil, Numeral.chars] at hc
  cases hpower : n.numeral.power with
  | none =>
      rw [hpower, Option.elim_none, List.append_nil] at hc
      exact Literal.isDigit_of_getLast hc
  | some p =>
      have hlast : (p.chars).getLast? = p.digits.getLast? := by
        unfold Power.chars
        rw [List.getLast?_cons_cons, ← List.singleton_append,
          List.getLast?_append_of_ne_nil _ p.digits_ne_nil]
      rw [hpower, Option.elim_some,
        List.getLast?_append_of_ne_nil _ (show p.chars ≠ [] from List.cons_ne_nil _ _), hlast] at hc
      exact p.isDigit_digits c (List.mem_of_getLast? hc)

theorem exists_getLast (n : SignedNumeral) : ∃ c, n.chars.getLast? = some c ∧ c.isDigit = true := by
  have hne : n.chars ≠ [] := List.append_ne_nil_of_right_ne_nil _ n.numeral.chars_ne_nil
  have hlast := List.getLast?_eq_some_getLast hne
  exact ⟨_, hlast, isDigit_of_getLast hlast⟩

/-! ## The passes -/

/-- There is no letter in front of the exponent. -/
theorem ne_letter_of_mem_front (n : SignedNumeral) :
    ∀ c ∈ n.minus ++ n.numeral.mantissa.chars, c ≠ 'e' := by
  rintro c hc rfl
  rcases List.mem_append.1 hc with hc | hc
  · unfold minus at hc
    split_ifs at hc <;> simp at hc
  · rcases Literal.of_mem_chars hc with hdigit | hpoint
    · cases hdigit
    · cases hpoint

/-- The letter of an exponent that follows a digit is not taken for the constant. -/
theorem replaceAll_eulerSign_power (p : Power) {previous : Option Char}
    (hprevious : previous.any isWord = true) : replaceAll eulerSign previous p.chars = p.chars := by
  have hfirst : eulerSign previous p.chars = none := by
    unfold Power.chars eulerSign
    simp [hprevious]
  -- no other letter follows
  have hdigits : ∀ c ∈ p.sign :: p.digits, c ≠ 'e' := by
    rintro c hc rfl
    rcases List.mem_cons.1 hc with hsign | hc
    · unfold Power.sign at hsign
      split_ifs at hsign <;> cases hsign
    · cases p.isDigit_digits _ hc
  have hrest := @replaceAll_append_of_forall eulerSign (p.sign :: p.digits) [] (some 'e')
    fun c hc _ _ => eulerSign_of_ne (hdigits c hc)
  rw [replaceAll_nil, List.append_nil] at hrest
  unfold Power.chars at hfirst ⊢
  rw [replaceAll_cons_of_none hfirst, hrest]

theorem replaceAll_eulerSign (n : SignedNumeral) : replaceAll eulerSign none n.chars = n.chars := by
  have hchars : n.chars =
      (n.minus ++ n.numeral.mantissa.chars) ++ n.numeral.power.elim [] Power.chars := by
    rw [chars, Numeral.chars, List.append_assoc]
  -- a digit is the last character in front of the exponent
  have hlast := List.getLast?_eq_some_getLast n.numeral.mantissa.chars_ne_nil
  have hprevious : (behind none (n.minus ++ n.numeral.mantissa.chars)).any isWord = true := by
    rw [behind, List.getLast?_append_of_ne_nil _ n.numeral.mantissa.chars_ne_nil, hlast]
    exact isWord_of_isDigit (Literal.isDigit_of_getLast hlast)
  rw [hchars, replaceAll_append_of_forall fun c hc _ _ =>
    eulerSign_of_ne (n.ne_letter_of_mem_front c hc)]
  congr 1
  cases n.numeral.power with
  | none => exact replaceAll_nil _ _
  | some p => exact replaceAll_eulerSign_power p hprevious

/-- All passes, in their order. -/
def passes : List Rule :=
  [percentOfBase, barePercent, circleSign, eulerSign, powerSign, factorialSign]

/-- No pass changes a signed numeral. -/
theorem replaceAll_chars (n : SignedNumeral) :
    ∀ rule ∈ passes, replaceAll rule none n.chars = n.chars := by
  have hnumeric : ∀ sign, isNumeric sign = false → sign ∉ n.chars := by
    intro sign hsign hmem
    rw [isNumeric_of_mem hmem] at hsign
    cases hsign
  unfold passes
  simp only [List.forall_mem_cons, List.not_mem_nil, false_implies, implies_true, and_true]
  refine ⟨?_, ?_, ?_, n.replaceAll_eulerSign, ?_, ?_⟩
  · exact needs_percentOfBase.replaceAll_eq (hnumeric '%' (by decide)) _
  · exact needs_barePercent.replaceAll_eq (hnumeric '%' (by decide)) _
  · exact replacesSign_circleSign.needs.replaceAll_eq (hnumeric 'π' (by decide)) _
  · exact replacesSign_powerSign.needs.replaceAll_eq (hnumeric '^' (by decide)) _
  · exact needs_factorialSign.replaceAll_eq (hnumeric '!' (by decide)) _

theorem canonical_chars (n : SignedNumeral) : canonical n.chars = n.chars := by
  have hpasses := n.replaceAll_chars
  unfold passes at hpasses
  simp only [List.forall_mem_cons] at hpasses
  obtain ⟨hbase, hbare, hcircle, heuler, hpower, hfactorial, -⟩ := hpasses
  rw [canonical, withoutPercentages, hbase, hbare, hcircle, heuler, hpower, hfactorial]

/-! ## The checks -/

theorem validate_chars (n : SignedNumeral) : validate n.chars = .ok n.chars := by
  obtain ⟨c, hlast, hdigit⟩ := n.exists_getLast
  have hclosed : withoutOpenOperator n.chars = n.chars := by
    have hoperator : c ∉ operators := by
      intro hc
      have hall : operators.all (fun c => !c.isDigit) = true := by decide
      have hother := List.all_eq_true.1 hall c hc
      rw [hdigit] at hother
      cases hother
    simp only [withoutOpenOperator, hlast, if_neg hoperator]
  have hblank : isBlankText n.chars = false := by
    rw [isBlankText, List.all_eq_false]
    exact ⟨c, List.mem_of_getLast? hlast, by
      rw [not_isBlank_of_isDigit (isDigit_of_core hdigit)]
      exact Bool.false_ne_true⟩
  have hopening : '(' ∉ n.chars := fun hmem => by cases isNumeric_of_mem hmem
  have hclosing : ')' ∉ n.chars := fun hmem => by cases isNumeric_of_mem hmem
  have hparentheses : checkParentheses n.chars = .ok () := by
    rw [checkParentheses, List.count_eq_zero.2 hopening, List.count_eq_zero.2 hclosing]
    rfl
  have harguments : checkArguments n.chars = .ok () := by
    refine checkArguments_eq_ok fun function _ inside hcall => ?_
    obtain ⟨before, gap, htext, -⟩ := hcall
    exact absurd (by simp [htext]) hopening
  rw [validate, strip, hclosed, hblank]
  show ((checkParentheses n.chars).bind fun _ => (checkArguments n.chars).bind fun _ => _) = _
  rw [hparentheses, harguments]
  rfl

/-! ## The tokens and the value -/

/-- The token of the minus, if there is one. -/
def minusTokens (n : SignedNumeral) : List Token := if n.negative then [⟨.symbol, "-", 0⟩] else []

/-- The token of the numeral. -/
def numberToken (n : SignedNumeral) : Token :=
  ⟨.number, String.ofList n.numeral.chars, n.minus.length⟩

private theorem scan_numeral (n : Numeral) (position : ℕ) :
    Token.scan position n.chars = .ok [⟨.number, String.ofList n.chars, position⟩] := by
  have hne : n.chars.length ≠ 0 := by simpa using n.chars_ne_nil
  have hleading : Token.leading? (n.chars ++ []) = some (.number, n.chars.length) := by
    unfold Token.leading?
    rw [List.append_nil, n.numeralLength_chars, if_pos hne]
  have hrest : Token.scan (position + n.chars.length) [] = .ok [] := by rw [Token.scan]
  have hscan := scan_append n.chars_ne_nil hleading hrest
  rwa [List.append_nil] at hscan

/-- A signed numeral has one number token behind at most a minus. -/
theorem scan_chars (n : SignedNumeral) :
    Token.scan 0 n.chars = .ok (n.minusTokens ++ [n.numberToken]) := by
  unfold chars minusTokens numberToken minus
  cases n.negative with
  | false => exact scan_numeral n.numeral 0
  | true =>
      have hleading : Token.leading? ('-' :: n.numeral.chars) = some (.symbol, 1) := by
        rw [leading?_of_isClear (by decide) (by simp)]
        rfl
      exact scan_append (List.cons_ne_nil _ _) hleading (scan_numeral n.numeral 1)

private theorem value_numberToken (n : SignedNumeral) :
    n.numberToken.value = n.numeral.decimal.toFloat := by
  rw [Token.value, numberToken, String.toList_ofList, n.numeral.read_chars]

theorem evaluateCanonical_chars (n : SignedNumeral) (bindings : Bindings) :
    evaluateCanonical (String.ofList n.chars) bindings = .ok n.value := by
  have hparse : Expr.parse (String.ofList n.chars) =
      .ok (if n.negative then .sign "-" (.number n.numberToken.value)
        else .number n.numberToken.value) := by
    rw [Expr.parse, Token.ofText, String.toList_ofList, scan_chars]
    unfold minusTokens
    cases n.negative <;> rfl
  rw [evaluateCanonical, hparse]
  show Expr.evaluate bindings _ = _
  rw [Expr.evaluate_eq_value, value_numberToken, value]
  cases n.negative <;> rfl

end SignedNumeral

/-! ## The display -/

/-- The text of a finite float is a numeral behind at most a minus, for the float itself or for the
positive zero.  It stands for the same number as the shortest decimal. -/
theorem exists_numeral_of_displayText {v : Float} (h : v.isFinite = true) :
    ∃ n : SignedNumeral, (displayText v).toList = n.chars ∧
      (n.value = if v == 0 then 0.0 else v) ∧
      n.numeral.decimal.value = if v == 0 then 0 else (Decimal.shortest v).value := by
  by_cases hzero : (v == 0) = true
  · let zero : Numeral := ⟨⟨['0'], [], by simp, by simp, by simp⟩, none⟩
    have hcoefficient : zero.decimal.coefficient = 0 := rfl
    refine ⟨⟨false, zero⟩, ?_, ?_, ?_⟩
    · unfold displayText Layout.write
      simp only [Binary.kind_of_isFinite h, Bool.false_eq_true, if_false, hzero, if_true]
      exact String.toList_ofList
    · rw [if_pos hzero]
      refine (Decimal.toFloat_zero hcoefficient).trans (Binary.unpack_injective ?_)
      exact @Binary.unpack_pack (.zero .positive) trivial
    · rw [if_pos hzero]
      exact Decimal.value_eq_zero_iff.2 hcoefficient
  · have hpos : 0 < significand v :=
      Nat.pos_of_ne_zero fun hnone => hzero ((Binary.beq_zero_iff h).2 hnone)
    obtain ⟨n, htext, hvalue, hdecimal, -⟩ :=
      @Layout.exists_numeral_of_write displayLayout v h hpos (.inl rfl)
    rw [if_neg hzero, if_neg hzero]
    exact ⟨n, htext, hvalue, hdecimal⟩

/-- The text of a finite float, as it stays on the display, passes the checks; no pass touches it;
it is a number token behind at most a minus; and it evaluates to the float itself, or for either
zero to the positive one. -/
theorem displayText_reads_back {v : Float} (h : v.isFinite = true) :
    validate (displayText v).toList = .ok (displayText v).toList ∧
      (∀ rule ∈ SignedNumeral.passes,
        replaceAll rule none (displayText v).toList = (displayText v).toList) ∧
      canonical (displayText v).toList = (displayText v).toList ∧
      (∃ (minus : Bool) (number : List Char),
        (displayText v).toList = (if minus then ['-'] else []) ++ number ∧
        Token.ofText (displayText v) = .ok ((if minus then [⟨.symbol, "-", 0⟩] else []) ++
          [⟨.number, String.ofList number, if minus then 1 else 0⟩])) ∧
      evaluateCanonical (String.ofList (canonical (displayText v).toList)) [] =
        .ok (if v == 0 then 0.0 else v) := by
  obtain ⟨n, htext, hvalue, -⟩ := exists_numeral_of_displayText h
  rw [Token.ofText, htext]
  refine ⟨n.validate_chars, n.replaceAll_chars, n.canonical_chars,
    ⟨n.negative, n.numeral.chars, rfl, ?_⟩, ?_⟩
  · rw [n.scan_chars, SignedNumeral.minusTokens, SignedNumeral.numberToken, SignedNumeral.minus]
    cases n.negative <;> rfl
  · rw [n.canonical_chars, n.evaluateCanonical_chars, hvalue]

theorem displayText_reads_back_minute :
    (-2.5e-7 : Float).isFinite = true ∧ displayText (-2.5e-7) = "-2.5e-7" ∧
      validate "-2.5e-7".toList = .ok "-2.5e-7".toList ∧
      evaluateCanonical (String.ofList (canonical "-2.5e-7".toList)) [] = .ok (-2.5e-7) := by
  have hfinite : (-2.5e-7 : Float).isFinite = true := by decide
  have htext : displayText (-2.5e-7) = "-2.5e-7" := by decide +kernel
  have hzero : ((-2.5e-7 : Float) == 0) = false := by decide
  obtain ⟨hvalid, -, -, -, hvalue⟩ := displayText_reads_back hfinite
  rw [htext] at hvalid hvalue
  rw [hzero] at hvalue
  exact ⟨hfinite, htext, hvalid, hvalue⟩

end DeskCalculator
