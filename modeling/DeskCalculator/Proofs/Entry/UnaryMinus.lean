import DeskCalculator.Proofs.Entry.Boundary
import DeskCalculator.Proofs.Entry.OpenOperator

/-!
# A minus before a factorial

A minus directly before the factorial of a plain number is moved to the number unless
the character before it ends an operand (`canonical_minus_before_factorial`).  Every
other pass leaves it where it is, and keeps the class of the character before it
(`Kept.withoutSigns`), so this is decided on the entry as it was typed.

That character tells as much as the parser knows there: behind the end of an operand
the parser reads a subtraction (`exists_operand_before`), and where an operand is due a
sign (`operand_before_of_opener`).  Only a blank tells nothing, and a minus behind one is
moved even if it would have been a subtraction (`minus_behind_blank_moved`).
-/

namespace DeskCalculator.Entry

open Text Surface Grammar

/-! ## Passes around a minus before a factorial -/

/-- The factorial of a number with a minus before it, and the text behind it. -/
def minusFactorial (number after : List Char) : List Char := '-' :: (number ++ '!' :: after)

theorem stops_minusFactorial {number after : List Char} : Stops (minusFactorial number after) :=
  Sign.minus.stops_char

/-- The blanks at the start of a text are the same with something else than blanks behind it. -/
theorem blankRun_append {text rest : List Char} (hrest : ∀ c ∈ rest.head?, isBlank c = false) :
    blankRun (text ++ rest) = blankRun text := by
  rw [blankRun, takeWhile_append_of_head hrest, blankRun]

private theorem drop_blankRun_append (text rest : List Char) :
    (text ++ rest).drop (blankRun text) = text.drop (blankRun text) ++ rest :=
  List.drop_append_of_le_length (List.takeWhile_prefix _).length_le

section

variable {number after : List Char}

theorem local_percentOfBase (hnumber : PlainNumber number) :
    Local percentOfBase (minusFactorial number after) := by
  have hblank : ∀ c ∈ (minusFactorial number after).head?, isBlank c = false := by
    rintro c ⟨⟩
    decide
  intro previous text _
  rw [percentOfBase, percentOfBase, plain?_append stops_minusFactorial]
  cases plain? text with
  | none => rfl
  | some found =>
      obtain ⟨base, behindBase⟩ := found
      simp only [Option.map_some, Option.bind_eq_bind, Option.bind_some, blankRun_append hblank,
        drop_blankRun_append]
      cases behindBase.drop (blankRun behindBase) with
      | nil =>
          -- the minus is an operator behind the base, but no percentage follows
          obtain ⟨c, digits, hdigits, hdigit⟩ := hnumber.head
          have hnone : blankRun (number ++ '!' :: after) = 0 := by
            simp [blankRun, hdigits, not_isBlank_of_isDigit hdigit]
          simp [minusFactorial, hnone, hnumber.plain?_append stops_exclamation]
      | cons operator behindOperator =>
          simp only [List.cons_append, blankRun_append hblank, drop_blankRun_append,
            plain?_append stops_minusFactorial]
          cases plain? (behindOperator.drop (blankRun behindOperator)) with
          | none => rfl
          | some found =>
              obtain ⟨share, behindShare⟩ := found
              cases behindShare with
              | nil => simp [minusFactorial]
              | cons d rest => by_cases hd : d = '%' <;> simp [hd]

theorem local_barePercent : Local barePercent (minusFactorial number after) := by
  intro previous text _
  rw [barePercent, barePercent, plain?_append stops_minusFactorial]
  cases plain? text with
  | none => rfl
  | some found =>
      obtain ⟨share, behindShare⟩ := found
      cases behindShare with
      | nil => rfl
      | cons c rest => by_cases hc : c = '%' <;> simp [hc]

theorem local_circleSign : Local circleSign (minusFactorial number after) := by
  intro previous text hne
  cases text with
  | nil => exact absurd rfl hne
  | cons c rest => by_cases hc : c = 'π' <;> simp [circleSign, hc]

theorem local_powerSign : Local powerSign (minusFactorial number after) := by
  intro previous text hne
  cases text with
  | nil => exact absurd rfl hne
  | cons c rest => by_cases hc : c = '^' <;> simp [powerSign, hc]

/-- Where a factorial is looked for behind a possible minus, it is found with anything behind it. -/
theorem factorial_append {written : List Char → ℕ × List Char} {text rest : List Char}
    (hrest : Stops rest) (hsign : ∀ c ∈ rest.head?, c ≠ '!') :
    (match plain? (text ++ rest) with
      | some (operand, '!' :: _) => some (written operand)
      | _ => none) =
    match plain? text with
      | some (operand, '!' :: _) => some (written operand)
      | _ => none := by
  rw [plain?_append hrest]
  cases plain? text with
  | none => rfl
  | some found =>
      obtain ⟨operand, behindOperand⟩ := found
      cases behindOperand with
      | nil =>
          cases rest with
          | nil => rfl
          | cons d others => simp [hsign d rfl]
      | cons d others => by_cases hd : d = '!' <;> simp [hd]

theorem local_factorialSign : Local factorialSign (minusFactorial number after) := by
  have hsign : ∀ c ∈ (minusFactorial number after).head?, c ≠ '!' := by
    rintro c ⟨⟩
    decide
  intro previous text hne
  cases text with
  | nil => exact absurd rfl hne
  | cons c rest =>
      by_cases hc : c = '-'
      · subst hc
        rw [List.cons_append, factorialSign_minus, factorialSign_minus]
        split_ifs
        · rfl
        · exact factorial_append stops_minusFactorial hsign
      · rw [factorialSign_of_ne (by simpa using hc), factorialSign_of_ne (by simpa using hc)]
        exact factorial_append stops_minusFactorial hsign

/-! ## The passes before the last one -/

/-- Whether a pass leaves the factorial of a number with a minus before it alone. -/
def Spares (rule : Rule) (number : List Char) : Prop :=
  ∀ previous before after, replaceAll rule previous (before ++ minusFactorial number after) =
    replaceAll rule previous before ++ minusFactorial number (replaceAll rule (some '!') after)

theorem spares_of_local {rule : Rule} (quiet : Quiet rule)
    (hlocal : ∀ after, Local rule (minusFactorial number after)) (hnumber : PlainNumber number)
    (hminus : ∀ previous rest, rule previous ('-' :: rest) = none)
    (hnumeric : ∀ previous tail after, IsNumeric tail → tail ≠ [] →
      rule previous (tail ++ '!' :: after) = none)
    (hsign : ∀ previous rest, rule previous ('!' :: rest) = none) : Spares rule number := by
  intro previous before after
  rw [(hlocal after).replaceAll_append quiet, minusFactorial, replaceAll_cons_of_none (hminus _ _),
    replaceAll_numeric hnumber.mem fun previous tail htail hne =>
      hnumeric previous tail after htail hne,
    replaceAll_cons_of_none (hsign _ _)]
  rfl

/-- A rule for a single sign other than those around a number. -/
theorem spares_of_ne {rule : Rule} {sign : Char} (quiet : Quiet rule)
    (hlocal : ∀ after, Local rule (minusFactorial number after)) (hnumber : PlainNumber number)
    (hsign : isDigit sign = false ∧ sign ∉ ['-', '.', '!'])
    (hrule : ∀ previous c rest, c ≠ sign → rule previous (c :: rest) = none) :
    Spares rule number := by
  have hne : '-' ≠ sign ∧ '.' ≠ sign ∧ '!' ≠ sign := by
    simpa [eq_comm] using hsign.2
  refine spares_of_local quiet hlocal hnumber (fun _ _ => hrule _ _ _ hne.1) ?_
    fun _ _ => hrule _ _ _ hne.2.2
  intro previous tail after htail hnil
  cases tail with
  | nil => exact absurd rfl hnil
  | cons c rest =>
      refine hrule _ _ _ ?_
      rcases htail c List.mem_cons_self with hdigit | rfl
      · rintro rfl
        rw [hsign.1] at hdigit
        cases hdigit
      · exact hne.2.1

theorem spares_percentOfBase (hnumber : PlainNumber number) : Spares percentOfBase number :=
  spares_of_local quiet_percentOfBase (fun _ => local_percentOfBase hnumber) hnumber
    (fun _ _ => percentOfBase_of_not_isDigit (by decide))
    (fun _ _ _ htail _ => percentOfBase_numeric htail stops_exclamation (by rintro c ⟨⟩; decide))
    fun _ _ => percentOfBase_of_not_isDigit (by decide)

theorem spares_barePercent (hnumber : PlainNumber number) : Spares barePercent number :=
  spares_of_local quiet_barePercent (fun _ => local_barePercent) hnumber
    (fun _ _ => barePercent_of_not_isDigit (by decide))
    (fun _ _ _ htail _ => barePercent_numeric htail stops_exclamation (by rintro c ⟨⟩; decide))
    fun _ _ => barePercent_of_not_isDigit (by decide)

theorem spares_circleSign (hnumber : PlainNumber number) : Spares circleSign number :=
  spares_of_ne quiet_circleSign (fun _ => local_circleSign) hnumber (by decide)
    fun _ _ _ => circleSign_of_ne

theorem spares_eulerSign (hnumber : PlainNumber number) : Spares eulerSign number :=
  spares_of_ne quiet_eulerSign (fun _ => local_eulerSign (by rintro c ⟨⟩; decide)) hnumber
    (by decide) fun _ _ _ => eulerSign_of_ne

theorem spares_powerSign (hnumber : PlainNumber number) : Spares powerSign number :=
  spares_of_ne quiet_powerSign (fun _ => local_powerSign) hnumber (by decide)
    fun _ _ _ => powerSign_of_ne

/-! ## The last character before the minus -/

/-- The classes of characters that the canonical form keeps at the end of a text. -/
structure Kept (P : Char → Bool) : Prop where
  percent : P ')' = P '%'
  factorial : P ')' = P '!'
  circle : P 'I' = P 'π'
  euler : P 'E' = P 'e'
  power : P '*' = P '^'

theorem kept_endsOperand : Kept endsOperand := by constructor <;> decide

/-- A text before its factorials are written out. -/
def withoutSigns (previous : Option Char) (text : List Char) : List Char :=
  replaceAll powerSign previous <| replaceAll eulerSign previous <|
    replaceAll circleSign previous <| replaceAll barePercent previous <|
      replaceAll percentOfBase previous text

/-- The canonical form of a text that the character `previous` comes before. -/
def canonicalBehind (previous : Option Char) (text : List Char) : List Char :=
  replaceAll factorialSign previous (withoutSigns previous text)

theorem canonical_eq (entry : List Char) : canonical entry = canonicalBehind none entry := rfl

theorem Kept.withoutSigns {P : Char → Bool} (h : Kept P) (previous : Option Char)
    (text : List Char) :
    (withoutSigns previous text).getLast?.any P = text.getLast?.any P := by
  rw [Entry.withoutSigns,
    (endsIn_powerSign.keepsEnd h.power).replaceAll quiet_powerSign,
    (endsIn_eulerSign.keepsEnd h.euler).replaceAll quiet_eulerSign,
    (endsIn_circleSign.keepsEnd h.circle).replaceAll quiet_circleSign,
    (endsIn_barePercent.keepsEnd h.percent).replaceAll quiet_barePercent,
    (endsIn_percentOfBase.keepsEnd h.percent).replaceAll quiet_percentOfBase]

theorem Kept.canonical {P : Char → Bool} (h : Kept P) (entry : List Char) :
    (canonical entry).getLast?.any P = entry.getLast?.any P := by
  rw [canonical_eq, canonicalBehind,
    (endsIn_factorialSign.keepsEnd h.factorial).replaceAll quiet_factorialSign, h.withoutSigns]

private theorem withoutSigns_minusFactorial (hnumber : PlainNumber number) (previous : Option Char)
    (before after : List Char) :
    withoutSigns previous (before ++ minusFactorial number after) =
      withoutSigns previous before ++ minusFactorial number (withoutSigns (some '!') after) := by
  rw [withoutSigns, spares_percentOfBase hnumber, spares_barePercent hnumber,
    spares_circleSign hnumber, spares_eulerSign hnumber, spares_powerSign hnumber]
  rfl

/-! ## The last pass -/

/-- The factorial of a number with a minus before it, in canonical notation; the minus is moved to
the number, or it stays where it is. -/
def writtenFactorial (moved : Bool) (number : List Char) : List Char :=
  if moved then "factorial(-".toList ++ number ++ [')']
  else "-factorial(".toList ++ number ++ [')']

private theorem replaceAll_factorialSign_plain (hnumber : PlainNumber number)
    (previous : Option Char) (after : List Char) :
    replaceAll factorialSign previous (number ++ '!' :: after) =
      "factorial(".toList ++ number ++ [')'] ++ replaceAll factorialSign (some '!') after := by
  have hminus : ∀ d ∈ (number ++ '!' :: after).head?, d ≠ '-' := by
    obtain ⟨c, digits, rfl, hdigit⟩ := hnumber.head
    rintro d ⟨⟩ rfl
    exact absurd hdigit (by decide)
  have hmatch : factorialSign previous (number ++ ['!'] ++ after) =
      some ((number ++ ['!']).length, "factorial(".toList ++ number ++ [')']) := by
    rw [List.append_assoc, List.singleton_append, factorialSign_of_ne hminus,
      hnumber.plain?_append stops_exclamation, List.length_append]
    rfl
  have hsplit : number ++ '!' :: after = number ++ ['!'] ++ after := by simp
  rw [hsplit, replaceAll_append_of_some (by simp) hmatch, List.getLast?_concat]

theorem replaceAll_factorialSign_minus (hnumber : PlainNumber number) (previous : Option Char)
    (after : List Char) :
    replaceAll factorialSign previous (minusFactorial number after) =
      writtenFactorial (!previous.any endsOperand) number ++
        replaceAll factorialSign (some '!') after := by
  cases hprevious : previous.any endsOperand with
  | true =>
      have hnone : factorialSign previous (minusFactorial number after) = none := by
        rw [minusFactorial, factorialSign_minus, if_pos hprevious]
      rw [minusFactorial, replaceAll_cons_of_none hnone, replaceAll_factorialSign_plain hnumber]
      rfl
  | false =>
      have hmatch : factorialSign previous ('-' :: (number ++ ['!']) ++ after) =
          some (('-' :: (number ++ ['!'])).length,
            "factorial(".toList ++ '-' :: number ++ [')']) := by
        rw [List.cons_append, List.append_assoc, List.singleton_append, factorialSign_minus,
          if_neg (by simp [hprevious]), hnumber.plain?_append stops_exclamation, List.length_cons,
          List.length_append]
        rfl
      have hsplit : minusFactorial number after = '-' :: (number ++ ['!']) ++ after := by
        simp [minusFactorial]
      have hlast : ('-' :: (number ++ ['!'])).getLast? = some '!' :=
        @List.getLast?_concat _ ('-' :: number) '!'
      rw [hsplit, replaceAll_append_of_some (by simp) hmatch, hlast]
      rfl

private theorem canonical_minusFactorial (hnumber : PlainNumber number) (before after : List Char) :
    canonical (before ++ minusFactorial number after) =
      canonical before ++ writtenFactorial (!before.getLast?.any endsOperand) number ++
        canonicalBehind (some '!') after := by
  have hlast : ∀ text : List Char, behind none text = text.getLast? := fun text => Option.or_none
  rw [canonical_eq, canonicalBehind, withoutSigns_minusFactorial hnumber,
    Local.replaceAll_append local_factorialSign quiet_factorialSign, hlast,
    replaceAll_factorialSign_minus hnumber, kept_endsOperand.withoutSigns, List.append_assoc]
  rfl

end

/-! ## The position of the minus -/

/-- The characters behind which an operand is due. -/
def openers : List Char := '(' :: ',' :: operators

/-- Whether a minus behind a text is in unary position: an operand is due behind the last character
that is no blank, or there is none. -/
def IsUnary (before : List Char) : Prop :=
  ∀ c ∈ before.reverse.find? (!isBlank ·), c ∈ openers

/-- Whether a character stands neither around operands nor within them. -/
def isForeign (c : Char) : Bool :=
  !isBlank c && !endsOperand c && c ∉ openers

theorem not_endsOperand_of_isBlank {c : Char} (h : isBlank c = true) : endsOperand c = false := by
  rw [Bool.eq_false_iff]
  intro hends
  simp only [endsOperand, Bool.or_eq_true, decide_eq_true_eq, List.mem_cons, List.not_mem_nil,
    or_false] at hends
  rcases hends with hword | rfl | rfl | rfl | rfl
  · rw [not_isBlank_of_isWord hword] at h
    cases h
  all_goals exact absurd h (by decide)

private theorem not_endsOperand_of_mem_openers {c : Char} (h : c ∈ openers) :
    endsOperand c = false := by
  have hall : openers.all (fun c => !endsOperand c) = true := by decide
  simpa using List.all_eq_true.1 hall c h

/-- The minus is moved in unary position, and besides that behind blanks and foreign characters. -/
theorem moved_iff {before : List Char} : before.getLast?.any endsOperand = false ↔
    IsUnary before ∨ ∃ c ∈ before.getLast?, isBlank c = true ∨ isForeign c = true := by
  unfold IsUnary
  rw [List.getLast?_eq_head?_reverse]
  cases before.reverse with
  | nil => simp
  | cons c rest =>
      cases hblank : isBlank c with
      | true => simp [not_endsOperand_of_isBlank hblank, hblank]
      | false =>
          by_cases hopener : c ∈ openers
          · simp [hblank, hopener, not_endsOperand_of_mem_openers hopener]
          · simp [hblank, hopener, isForeign]

/-! ## What the parser makes of the minus -/

private theorem eq_nil_of_scanned {text : List Char} {tokens : List Token}
    (h : Token.Scanned text tokens) (htext : text = []) : tokens = [] := by
  cases h with
  | nil => rfl
  | token position chunk others => exact absurd (List.append_eq_nil_iff.1 htext).1 chunk.ne_nil
  | blank hblank others => cases htext

/-- The last token of a text that does not end in a blank. -/
theorem exists_last_of_scanned {text : List Char} {tokens : List Token} {c : Char}
    (h : Token.Scanned text tokens) (hc : c ∈ text.getLast?) (hblank : isBlank c = false) :
    ∃ earlier kind chars position, tokens = earlier ++ [⟨kind, String.ofList chars, position⟩] ∧
      Token.Chunk kind chars [] ∧ c ∈ chars.getLast? := by
  induction h with
  | nil => cases hc
  | @token kind chars rest tokens position chunk others ih =>
      by_cases hnil : rest = []
      · subst hnil
        rw [List.append_nil] at hc
        rw [eq_nil_of_scanned others rfl]
        exact ⟨[], kind, chars, position, rfl, chunk, hc⟩
      · rw [List.getLast?_append_of_ne_nil _ hnil] at hc
        obtain ⟨earlier, kind', chars', position', rfl, hlast⟩ := ih hc
        exact ⟨_ :: earlier, kind', chars', position', rfl, hlast⟩
  | @blank d rest tokens hd others ih =>
      by_cases hnil : rest = []
      · subst hnil
        obtain rfl : d = c := Option.mem_some_iff.1 hc
        rw [hd] at hblank
        cases hblank
      · have hlast : c ∈ ([d] ++ rest).getLast? := hc
        rw [List.getLast?_append_of_ne_nil _ hnil] at hlast
        exact ih hlast

/-- Behind a token that ends an operand, one has been read. -/
theorem exists_operand_of_step {progress next : Expr.Progress} {token : Token}
    (hends : token.kind = .number ∨ token.kind = .name ∨ token.Is .symbol ")")
    (h : Expr.step progress token = .ok next) : ∃ operand, next.operand = some operand := by
  obtain ⟨pending, _ | operand⟩ := progress
  · rcases hends with hkind | hkind | hcloses
    · rw [step_number hkind] at h
      cases h
      exact ⟨_, rfl⟩
    · rw [step_name hkind] at h
      cases h
      exact ⟨_, rfl⟩
    · by_cases hcall : ∃ callee rest, pending = .call callee [] :: rest
      · obtain ⟨callee, rest, rfl⟩ := hcall
        rw [step_emptyCall hcloses] at h
        cases h
        exact ⟨_, rfl⟩
      · rw [step_due_closing_error hcloses (by simpa using hcall)] at h
        cases h
  · rcases hends with hkind | hkind | hcloses
    · rw [step_behind_number hkind] at h
      cases h
    · rw [step_behind_name hkind] at h
      cases h
    · rw [step_closing hcloses] at h
      split at h <;> cases h
      · exact ⟨_, rfl⟩
      · exact ⟨_, rfl⟩

/-- Behind a token that opens the place of an operand, none has been read. -/
theorem operand_of_step_opener {progress next : Expr.Progress} {token : Token}
    (hopens : token.Is .symbol "(" ∨ token.Is .symbol "," ∨ IsOperator token)
    (h : Expr.step progress token = .ok next) : next.operand = none := by
  rcases hopens with hopens | hseparates | hoperator
  · obtain ⟨pending, _ | operand⟩ := progress
    · rw [step_group hopens] at h
      cases h
      rfl
    · rw [step_call hopens] at h
      cases h
      rfl
  · obtain ⟨pending, _ | operand⟩ := progress
    · rw [step_due_comma hseparates] at h
      cases h
    · rw [step_comma hseparates] at h
      split at h <;> cases h
      rfl
  · exact operand_of_step hoperator h

/-- What the last token is can be read off the last character, if that ends an operand. -/
theorem ends_of_chunk {kind : TokenKind} {chars : List Char} {c : Char}
    (h : Token.Chunk kind chars []) (hc : c ∈ chars.getLast?) (hends : endsOperand c = true) :
    kind = .number ∨ kind = .name ∨ kind = .symbol ∧ String.ofList chars = ")" := by
  cases h with
  | number mem ne => exact .inl rfl
  | name mem ne stop => exact .inr (.inl rfl)
  | power =>
      cases hc
      exact absurd hends (by decide)
  | @symbol d _ mem =>
      obtain rfl : d = c := Option.mem_some_iff.1 hc
      have hall : Token.symbols.all (fun d => !endsOperand d || d == ')') = true := by decide
      have hclosing := List.all_eq_true.1 hall _ mem
      rw [hends, Bool.not_true, Bool.false_or, beq_iff_eq] at hclosing
      exact .inr (.inr ⟨rfl, by rw [hclosing]⟩)

/-- The same of a character that is a parenthesis or a comma. -/
theorem opens_of_chunk {kind : TokenKind} {chars : List Char} {c : Char}
    (h : Token.Chunk kind chars []) (hc : c ∈ chars.getLast?) (hopens : c = '(' ∨ c = ',') :
    kind = .symbol ∧ chars = [c] := by
  have hall : Token.isNumeral c = false ∧ isWord c = false ∧ c ≠ '*' := by
    rcases hopens with rfl | rfl
    · exact ⟨by decide, by decide, by decide⟩
    · exact ⟨by decide, by decide, by decide⟩
  cases h with
  | number mem ne =>
      rw [mem c (List.mem_of_getLast? hc)] at hall
      cases hall.1
  | name mem ne stop =>
      rw [mem c (List.mem_of_getLast? hc)] at hall
      cases hall.2.1
  | power =>
      cases hc
      exact absurd rfl hall.2.2
  | symbol mem =>
      cases hc
      exact ⟨rfl, rfl⟩

private theorem kept_openers : Kept fun c => decide (c ∈ openers) := by constructor <;> decide

variable {before : List Char} {tokens : List Token} {progress : Expr.Progress}

/-- The last step of reading tokens. -/
theorem last_step {earlier : List Token} {last : Token}
    (h : (earlier ++ [last]).foldlM Expr.step ⟨[], none⟩ = .ok progress) :
    ∃ between, Expr.step between last = .ok progress := by
  rw [List.foldlM_append] at h
  obtain ⟨between, -, hlast⟩ := Expr.bind_eq_ok h
  rw [List.foldlM_cons] at hlast
  obtain ⟨next, hstep, hlast⟩ := Expr.bind_eq_ok hlast
  cases hlast
  exact ⟨between, hstep⟩

/-- Where the minus stays, the parser has read an operand before it. -/
theorem exists_operand_before (hscan : Token.ofText (String.ofList (canonical before)) = .ok tokens)
    (hread : tokens.foldlM Expr.step ⟨[], none⟩ = .ok progress)
    (hends : before.getLast?.any endsOperand = true) :
    ∃ operand, progress.operand = some operand := by
  rw [Token.ofText, String.toList_ofList] at hscan
  rw [← kept_endsOperand.canonical, Option.any_eq_true] at hends
  obtain ⟨c, hc, hends⟩ := hends
  have hblank : isBlank c = false := by
    rw [Bool.eq_false_iff]
    intro hblank
    rw [not_endsOperand_of_isBlank hblank] at hends
    cases hends
  obtain ⟨earlier, kind, chars, position, rfl, hchunk, hlast⟩ :=
    exists_last_of_scanned (Token.scanned_of_scan hscan) hc hblank
  obtain ⟨between, hstep⟩ := last_step hread
  exact exists_operand_of_step (ends_of_chunk hchunk hlast hends) hstep

/-- Behind a character that lets an operand follow, the parser waits for one. -/
theorem operand_before_of_opener
    (hscan : Token.ofText (String.ofList (canonical before)) = .ok tokens)
    (hread : tokens.foldlM Expr.step ⟨[], none⟩ = .ok progress)
    (hopens : before.getLast?.any (· ∈ openers) = true) : progress.operand = none := by
  rw [Token.ofText, String.toList_ofList] at hscan
  rw [← kept_openers.canonical, Option.any_eq_true] at hopens
  obtain ⟨c, hc, hopens⟩ := hopens
  have hmem : c = '(' ∨ c = ',' ∨ c ∈ operators := by simpa [openers] using hopens
  have hbracket : c = '(' ∨ c = ',' → progress.operand = none := by
    intro hbracket
    have hblank : isBlank c = false := by
      rcases hbracket with rfl | rfl
      · decide
      · decide
    obtain ⟨earlier, kind, chars, position, rfl, hchunk, hlast⟩ :=
      exists_last_of_scanned (Token.scanned_of_scan hscan) hc hblank
    obtain ⟨rfl, rfl⟩ := opens_of_chunk hchunk hlast hbracket
    obtain ⟨between, hstep⟩ := last_step hread
    refine operand_of_step_opener ?_ hstep
    rcases hbracket with rfl | rfl
    · exact .inl ⟨rfl, rfl⟩
    · exact .inr (.inl ⟨rfl, rfl⟩)
  rcases hmem with rfl | rfl | hoperator
  · exact hbracket (.inl rfl)
  · exact hbracket (.inr rfl)
  · obtain ⟨earlier, last, rfl, hlast⟩ := exists_operator_of_scan hscan ⟨c, hc, hoperator⟩
    obtain ⟨between, hstep⟩ := last_step hread
    exact operand_of_step hlast hstep

/-- A minus directly before the factorial of a plain number is moved to the number unless the
character before it ends an operand, and what stands on either side of it is put into canonical form
as if it stood alone.  Unary position is one case in which it is moved; the others are that a blank
or a foreign character comes directly before it.  Where it stays, the parser reads a subtraction,
and behind nothing, a parenthesis, a comma or an operator it would read a sign. -/
theorem canonical_minus_before_factorial (before after : List Char) {number : List Char}
    (h : plain? number = some (number, [])) :
    canonical (before ++ '-' :: (number ++ '!' :: after)) =
      canonical before ++ writtenFactorial (!before.getLast?.any endsOperand) number ++
        canonicalBehind (some '!') after ∧
    (before.getLast?.any endsOperand = false ↔
      IsUnary before ∨ ∃ c ∈ before.getLast?, isBlank c = true ∨ isForeign c = true) ∧
    ∀ tokens progress position, Token.ofText (String.ofList (canonical before)) = .ok tokens →
      tokens.foldlM Expr.step ⟨[], none⟩ = .ok progress →
      (before.getLast?.any endsOperand = true → ∃ left pending,
        Expr.step progress ⟨.symbol, "-", position⟩ = .ok ⟨.operation left "-" :: pending, none⟩) ∧
      ((∀ c ∈ before.getLast?, c ∈ openers) →
        Expr.step progress ⟨.symbol, "-", position⟩ =
          .ok ⟨.sign "-" :: progress.pending, none⟩) := by
  refine ⟨canonical_minusFactorial h before after, moved_iff, ?_⟩
  intro tokens progress position hscan hread
  obtain ⟨pending, operand⟩ := progress
  have hminus : Token.Additive ⟨.symbol, "-", position⟩ := .inr ⟨rfl, rfl⟩
  constructor
  · intro hends
    obtain ⟨found, hfound⟩ := exists_operand_before hscan hread hends
    obtain rfl : operand = some found := hfound
    exact ⟨_, _, step_operator (.inl hminus)⟩
  · intro hopens
    have hdue : operand = none := by
      cases hlast : before.getLast? with
      | none =>
          -- nothing has been read
          rw [List.getLast?_eq_none_iff] at hlast
          have hempty : Token.ofText (String.ofList (canonical before)) = .ok [] := by
            simp [hlast, canonical, withoutPercentages, replaceAll_nil, Token.ofText, Token.scan]
          cases hscan.symm.trans hempty
          cases hread
          rfl
      | some c =>
          refine operand_before_of_opener hscan hread ?_
          rw [hlast, Option.any_some, decide_eq_true_eq]
          exact hopens c hlast
    rw [hdue]
    exact step_sign hminus

/-- Directly behind a number, the minus stays and is read as a subtraction. -/
theorem canonical_minus_before_factorial_five :
    let minus : Token := ⟨.symbol, "-", 1⟩
    plain? "3".toList = some ("3".toList, []) ∧ "5".toList.getLast?.any endsOperand = true ∧
      ∃ tokens progress left pending,
        Token.ofText (String.ofList (canonical "5".toList)) = .ok tokens ∧
        tokens.foldlM Expr.step ⟨[], none⟩ = .ok progress ∧
        Expr.step progress minus = .ok ⟨.operation left "-" :: pending, none⟩ := by
  intro minus
  have hthree : plain? "3".toList = some ("3".toList, []) := by decide
  have hfive : "5".toList.getLast?.any endsOperand = true := by decide
  have hscan : Token.ofText (String.ofList (canonical "5".toList)) = .ok [⟨.number, "5", 0⟩] := by
    cbv
  have hread : [(⟨.number, "5", 0⟩ : Token)].foldlM Expr.step ⟨[], none⟩ = .ok _ := rfl
  obtain ⟨left, pending, hstep⟩ :=
    ((canonical_minus_before_factorial "5".toList [] hthree).2.2 _ _ 1 hscan hread).1 hfive
  exact ⟨hthree, hfive, _, _, left, pending, hscan, hread, hstep⟩

/-- Behind a blank, the minus is moved although a number stands before it. -/
theorem minus_behind_blank_moved :
    canonical "5 -3!".toList = "5 factorial(-3)".toList ∧ ¬ IsUnary "5 ".toList := by
  refine ⟨by decide +kernel, fun h => ?_⟩
  exact absurd (h '5' (by decide)) (by decide)

end DeskCalculator.Entry
