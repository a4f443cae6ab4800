import DeskCalculator.Evaluation
import DeskCalculator.Proofs.Entry.Preserved
import DeskCalculator.Proofs.Grammar.Closing
import DeskCalculator.Proofs.Result.Display
import DeskCalculator.Proofs.Token.Chunks

/-!
# Entries that end in an operator

An entry that ends in an operator has no value (`not_isOpen_of_evaluateCanonical`):
the passes of the canonical form keep such an end, the last token is then an
operator, and the parser still waits for an operand behind it.

So nothing is dropped from an entry that has been evaluated when it is evaluated
again, and its evaluation is the same (`evaluateEntry_expression`).
-/

namespace DeskCalculator

namespace Entry

open Text Token Grammar

/-! ## Texts that end in an operator -/

/-- Whether an operator stands at the end of a text. -/
def IsOpen (text : List Char) : Prop := ∃ c ∈ text.getLast?, c ∈ operators

theorem not_isOpen_nil : ¬ IsOpen [] := nofun

theorem isOpen_append {first second : List Char} (hne : second ≠ []) :
    IsOpen (first ++ second) ↔ IsOpen second := by
  rw [IsOpen, IsOpen, List.getLast?_append_of_ne_nil first hne]

private theorem isOpen_cons {c : Char} {rest : List Char} (hne : rest ≠ []) :
    IsOpen (c :: rest) ↔ IsOpen rest :=
  @isOpen_append [c] rest hne

theorem IsOpen.ne_nil {text : List Char} (h : IsOpen text) : text ≠ [] := by
  rintro rfl
  exact not_isOpen_nil h

/-- Behind a text that does not end in an operator, something does. -/
theorem IsOpen.behind {first second : List Char} (h : IsOpen (first ++ second))
    (hfirst : ¬ IsOpen first) : IsOpen second := by
  cases second with
  | nil =>
      rw [List.append_nil] at h
      exact absurd h hfirst
  | cons c rest => exact (isOpen_append (List.cons_ne_nil c rest)).1 h

private theorem not_isOpen_append_singleton {text : List Char} {c : Char} (hc : c ∉ operators) :
    ¬ IsOpen (text ++ [c]) := by
  rintro ⟨d, hd, hmem⟩
  rw [List.getLast?_concat, Option.mem_some_iff] at hd
  exact hc (hd ▸ hmem)

/-! ## The canonical form of such a text -/

/-- Whether a rule writes an operator at the end wherever it replaces one there. -/
def KeepsOpen (rule : Rule) : Prop :=
  ∀ previous text length replacement, rule previous text = some (length, replacement) →
    IsOpen (text.take length) → IsOpen replacement

/-- An operator may be where the matches of a rule end if what it writes ends in one as well. -/
theorem EndsIn.keepsOpen {rule : Rule} {sign closing : Char} (ends : EndsIn rule sign closing)
    (h : sign ∈ operators → closing ∈ operators) : KeepsOpen rule := by
  intro previous text length replacement hfound hopen
  obtain ⟨hsign, hclosing⟩ := ends _ _ _ _ hfound
  obtain ⟨c, hc, hmem⟩ := hopen
  rw [Option.mem_unique hc hsign] at hmem
  exact ⟨closing, hclosing, h hmem⟩

/-- A pass keeps an operator at the end. -/
theorem KeepsOpen.replaceAll {rule : Rule} (keeps : KeepsOpen rule) (quiet : Quiet rule)
    {previous : Option Char} {text : List Char} (h : IsOpen text) :
    IsOpen (replaceAll rule previous text) := by
  fun_induction Entry.replaceAll rule previous text with
  | case1 previous => exact h
  | case2 previous c rest length replacement hfound ih =>
      obtain ⟨stretch, others, htext, hlength, -, hothers⟩ := quiet.match_eq hfound
      have hkept := keeps _ _ _ _ hfound
      rw [hothers] at ih ⊢
      rw [htext, hlength, List.take_left] at hkept
      rw [htext] at h
      -- the operator at the end belongs to the match or stands behind it
      cases others with
      | nil =>
          rw [List.append_nil] at h
          rw [replaceAll_nil, List.append_nil]
          exact hkept h
      | cons d later =>
          have hlater := ih ((isOpen_append (List.cons_ne_nil d later)).1 h)
          exact (isOpen_append hlater.ne_nil).2 hlater
  | case3 previous c rest hnone ih =>
      cases rest with
      | nil =>
          rw [replaceAll_nil]
          exact h
      | cons d later =>
          have hlater := ih ((isOpen_cons (List.cons_ne_nil d later)).1 h)
          exact (isOpen_cons hlater.ne_nil).2 hlater

private theorem isOpen_canonical {entry : List Char} (h : IsOpen entry) :
    IsOpen (canonical entry) := by
  have hbase := endsIn_percentOfBase.keepsOpen (by decide)
  have hbare := endsIn_barePercent.keepsOpen (by decide)
  have hcircle := endsIn_circleSign.keepsOpen (by decide)
  have heuler := endsIn_eulerSign.keepsOpen (by decide)
  have hpower := endsIn_powerSign.keepsOpen (by decide)
  have hfactorial := endsIn_factorialSign.keepsOpen (by decide)
  exact hfactorial.replaceAll quiet_factorialSign <| hpower.replaceAll quiet_powerSign <|
    heuler.replaceAll quiet_eulerSign <| hcircle.replaceAll quiet_circleSign <|
      hbare.replaceAll quiet_barePercent <| hbase.replaceAll quiet_percentOfBase h

/-! ## The last token -/

/-- No operator is a word character, a digit or a point. -/
theorem not_isWord_of_mem_operators {c : Char} (h : c ∈ operators) :
    isWord c = false ∧ isDigit c = false ∧ c ≠ '.' := by
  have hall : operators.all (fun c => !isWord c && !isDigit c && c != '.') = true := by decide
  simpa [and_assoc] using List.all_eq_true.1 hall c h

theorem eq_numeralLength_of_leading? {text : List Char} {length : Nat}
    (h : leading? text = some (.number, length)) : length = numeralLength text := by
  unfold leading? at h
  split at h
  · cases h
    rfl
  split at h
  · cases h
  split at h
  · cases h
  · split at h <;> cases h
  · cases h

/-- A token that ends in an operator is one. -/
theorem isOperator_of_leading? {c : Char} {rest : List Char} {kind : TokenKind}
    {length position : Nat} (h : leading? (c :: rest) = some (kind, length))
    (hopen : IsOpen ((c :: rest).take length)) :
    IsOperator ⟨kind, String.ofList ((c :: rest).take length), position⟩ := by
  have hchunk := chunk_of_leading? h
  have hnumber : kind = .number → (c :: rest).take length =
      (c :: rest).take (numeralLength (c :: rest)) := by
    rintro rfl
    rw [eq_numeralLength_of_leading? h]
  obtain ⟨last, hlast, hmem⟩ := hopen
  obtain ⟨hword, hdigit, hpoint⟩ := not_isWord_of_mem_operators hmem
  generalize (c :: rest).take length = chars at hchunk hlast hnumber ⊢
  cases hchunk with
  | number mem ne =>
      -- a sign may stand within a numeral, before the digits of its exponent
      rw [hnumber rfl] at hlast
      rcases getLast?_take_numeralLength hlast with hlast | hlast
      · rw [hdigit] at hlast
        cases hlast
      · exact absurd hlast hpoint
  | name mem ne stop =>
      have hlast := mem last (List.mem_of_getLast? hlast)
      rw [hword] at hlast
      cases hlast
  | power => exact .inr (.inr ⟨rfl, rfl⟩)
  | symbol mem =>
      cases hlast
      simp only [operators, List.mem_cons, List.not_mem_nil, or_false] at hmem
      rcases hmem with rfl | rfl | rfl | rfl | rfl
      · exact .inl (.inl ⟨rfl, rfl⟩)
      · exact .inl (.inr ⟨rfl, rfl⟩)
      · exact .inr (.inl (.inl ⟨rfl, rfl⟩))
      · exact .inr (.inl (.inr ⟨rfl, rfl⟩))
      · exact absurd mem (by decide)

/-- The last token of a text that ends in an operator is one. -/
theorem exists_operator_of_scan {text : List Char} :
    ∀ {position : Nat} {tokens : List Token}, scan position text = .ok tokens → IsOpen text →
      ∃ earlier last, tokens = earlier ++ [last] ∧ IsOperator last := by
  intro position
  fun_induction scan position text with
  | case1 position =>
      intro tokens h hopen
      exact absurd hopen not_isOpen_nil
  | case2 position c rest kind length hleading ih =>
      intro tokens h hopen
      obtain ⟨others, hothers, h⟩ := Expr.bind_eq_ok h
      cases h
      have hsplit : (c :: rest).take length ++ rest.drop (length - 1) = c :: rest := by
        rw [drop_of_leading? hleading, List.take_append_drop]
      rw [← hsplit] at hopen
      -- this token is the last one, or an operator stands in the text behind it
      by_cases htoken : IsOpen ((c :: rest).take length) ∧ rest.drop (length - 1) = []
      · obtain ⟨htoken, hrest⟩ := htoken
        rw [hrest, scan] at hothers
        cases hothers
        exact ⟨[], _, rfl, isOperator_of_leading? hleading htoken⟩
      · have hrest : IsOpen (rest.drop (length - 1)) := by
          by_cases hnil : rest.drop (length - 1) = []
          · exact hopen.behind fun hfirst => htoken ⟨hfirst, hnil⟩
          · exact (isOpen_append hnil).1 hopen
        obtain ⟨earlier, last, rfl, hlast⟩ := ih hothers hrest
        exact ⟨_ :: earlier, last, rfl, hlast⟩
  | case3 position c rest hleading hblank ih =>
      intro tokens h hopen
      have hc : c ∉ operators := by
        have hall : operators.all (fun c => !isBlank c) = true := by decide
        intro hmem
        have hnot := List.all_eq_true.1 hall c hmem
        rw [hblank] at hnot
        cases hnot
      have hfirst : ¬ IsOpen [c] := @not_isOpen_append_singleton [] c hc
      exact ih h (@IsOpen.behind [c] rest hopen hfirst)
  | case4 position c rest hleading hblank =>
      intro tokens h
      cases h

/-! ## The parser behind an operator -/

/-- Behind an operator an operand is due. -/
theorem operand_of_step {progress next : Expr.Progress} {token : Token} (binary : IsOperator token)
    (h : Expr.step progress token = .ok next) : next.operand = none := by
  obtain ⟨pending, operand⟩ := progress
  cases operand with
  | some operand =>
      rw [step_operator binary] at h
      cases h
      rfl
  | none =>
      rcases binary with additive | multiplicative | raises
      · rw [step_sign additive] at h
        cases h
        rfl
      · rw [step_due_multiplicative multiplicative] at h
        cases h
      · rw [step_due_power raises] at h
        cases h

private theorem ofTokens_of_isOperator (earlier : List Token) {last : Token}
    (binary : IsOperator last) (e : Expr) : Expr.ofTokens (earlier ++ [last]) ≠ .ok e := by
  intro h
  rw [Expr.ofTokens, List.foldlM_append] at h
  obtain ⟨⟨pending, operand⟩, hread, hfinish⟩ := Expr.bind_eq_ok h
  obtain ⟨between, -, hlast⟩ := Expr.bind_eq_ok hread
  rw [List.foldlM_cons] at hlast
  obtain ⟨next, hstep, hlast⟩ := Expr.bind_eq_ok hlast
  cases hlast
  have hdue : operand = none := operand_of_step binary hstep
  rw [hdue] at hfinish
  cases hfinish

/-! ## Entries with a value -/

/-- An entry whose canonical form has a value does not end in an operator. -/
theorem not_isOpen_of_evaluateCanonical {entry : List Char} {bindings : Bindings} {v : Float}
    (h : evaluateCanonical (String.ofList (canonical entry)) bindings = .ok v) :
    ¬ IsOpen entry := by
  intro hopen
  obtain ⟨e, hparse, -⟩ := Expr.bind_eq_ok h
  obtain ⟨tokens, hscan, htokens⟩ := Expr.bind_eq_ok (Expr.mapError_eq_ok hparse)
  rw [Token.ofText, String.toList_ofList] at hscan
  obtain ⟨earlier, last, rfl, hlast⟩ := exists_operator_of_scan hscan (isOpen_canonical hopen)
  exact ofTokens_of_isOperator earlier hlast e htokens

private theorem withoutOpenOperator_of_not_isOpen {entry : List Char} (h : ¬ IsOpen entry) :
    withoutOpenOperator entry = entry := by
  unfold withoutOpenOperator
  split
  · next c hc =>
      rw [if_neg fun hmem => h ⟨c, hc, hmem⟩]
  · rfl

/-- An entry that has passed the checks passes them again if it does not end in an operator. -/
theorem validate_of_validate {entry checked : List Char} (h : validate entry = .ok checked)
    (hclosed : ¬ IsOpen checked) : validate checked = .ok checked := by
  obtain ⟨rest, hstrip, hbehind⟩ := Expr.bind_eq_ok h
  have hrest : rest = checked := by
    obtain ⟨⟨⟩, -, h⟩ := Expr.bind_eq_ok hbehind
    obtain ⟨⟨⟩, -, h⟩ := Expr.bind_eq_ok h
    exact Except.ok.inj h
  subst hrest
  have hblank : isBlankText rest = false := by
    unfold strip at hstrip
    simp only at hstrip
    split at hstrip
    · cases hstrip
    · next hblank =>
        cases hstrip
        rwa [Bool.not_eq_true] at hblank
  have hagain : strip rest = .ok rest := by
    rw [strip, withoutOpenOperator_of_not_isOpen hclosed]
    simp [hblank]
  rw [validate, hagain]
  exact hbehind

theorem entryValue_expression {entry expression : String} {v : Float}
    (h : entryValue entry = .ok (expression, v)) : entryValue expression = .ok (expression, v) := by
  obtain ⟨checked, hvalidate, h⟩ := Expr.bind_eq_ok h
  obtain ⟨value, hvalue, h⟩ := Expr.bind_eq_ok h
  split at h
  · next hfinite =>
      cases h
      have hagain := validate_of_validate (Expr.mapError_eq_ok hvalidate)
        (not_isOpen_of_evaluateCanonical hvalue)
      rw [entryValue, String.toList_ofList, hagain]
      show (evaluateCanonical (String.ofList (canonical checked)) [] >>= fun _ => _) = _
      rw [hvalue]
      show (if _ then _ else _) = _
      rw [if_pos hfinite]
      rfl
  · cases h

end Entry

/-- The expression of an evaluation evaluates to the same again. -/
theorem evaluateEntry_expression {entry : String} {precision : Precision} {evaluation : Evaluation}
    (h : evaluateEntry entry precision = .ok evaluation) :
    evaluateEntry evaluation.expression precision = .ok evaluation := by
  obtain ⟨v, hvalue, hresult⟩ := evaluateEntry_eq_ok_iff.1 h
  exact evaluateEntry_eq_ok_iff.2 ⟨v, Entry.entryValue_expression hvalue, hresult⟩

end DeskCalculator
