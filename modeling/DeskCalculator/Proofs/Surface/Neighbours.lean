import DeskCalculator.Proofs.Surface.Rewriting

/-!
# The passes that look at neighbouring words

The first pass takes in a literal, a sign and a percentage at once, and the last
one may take a minus along with a factorial.  Both are followed word by word
here; what each of them looks for is first found among the words.
-/

namespace DeskCalculator.Surface

open Text Entry

/-! ## Looking ahead -/

/-- The plain number at the start of a row of words, and the text behind it. -/
def leadingNumber? : List Word → Option (List Char × List Char)
  | .literal n :: rest => some (n.chars, text rest)
  | .percentage n :: rest => some (n.chars, '%' :: text rest)
  | .factorial n :: rest => some (n.chars, '!' :: text rest)
  | _ => none

theorem Word.head_chars_append {w : Word} {rest : List Char} {c : Char}
    (hc : c ∈ (w.chars ++ rest).head?) : c ∈ w.chars := by
  rw [List.head?_append_of_ne_nil _ w.chars_ne_nil] at hc
  exact List.mem_of_head? hc

theorem plain?_text {words : List Word} (happart : Apart words) :
    plain? (text words) = leadingNumber? words := by
  have hother : ∀ (w : Word) (rest : List Word),
      (∀ n, w ≠ .literal n ∧ w ≠ .percentage n ∧ w ≠ .factorial n) →
      plain? (text (w :: rest)) = none := by
    intro w rest hliteral
    refine plain?_of_not_isDigit fun c hc => ?_
    exact w.not_isDigit_of_mem hliteral (Word.head_chars_append hc)
  cases words with
  | nil => exact plain?_of_not_isDigit (by simp)
  | cons w rest =>
      cases w with
      | literal n => exact plain?_literal n (clear_of_apart happart rfl).stops
      | percentage n =>
          rw [text_cons, Word.chars, List.append_assoc]
          exact plain?_literal n stops_percent
      | factorial n =>
          rw [text_cons, Word.chars, List.append_assoc]
          exact plain?_literal n stops_exclamation
      | _ => exact hother _ rest (by simp)

/-- A sign directly behind the leading number is that of a percentage or a factorial. -/
theorem of_leadingNumber?_eq_some {words : List Word} {number others : List Char} {c : Char}
    (happart : Apart words) (hsign : isClear c = false)
    (h : leadingNumber? words = some (number, c :: others)) :
    (∃ n rest, c = '%' ∧ words = .percentage n :: rest) ∨
      ∃ n rest, c = '!' ∧ words = .factorial n :: rest := by
  cases words with
  | nil => cases h
  | cons w rest =>
      cases w with
      | literal n =>
          have hclear : Clear (text rest) := clear_of_apart happart rfl
          have hrest : text rest = c :: others := (Prod.mk.inj (Option.some.inj h)).2
          exact absurd rfl (hclear.ne hsign c (by rw [hrest]; rfl))
      | percentage n =>
          cases h
          exact .inl ⟨n, rest, rfl, rfl⟩
      | factorial n =>
          cases h
          exact .inr ⟨n, rest, rfl, rfl⟩
      | _ => cases h

/-- Only a spaced mark has blanks. -/
theorem Word.not_isBlank_of_mem {w : Word} (hspaced : ¬ w.IsSpaced) {c : Char}
    (hc : c ∈ w.chars) : isBlank c = false := by
  rcases Word.of_mem_chars hc with
    ⟨hdigit | hsign, -⟩ | ⟨-, rfl⟩ | ⟨-, rfl⟩ | ⟨-, halpha⟩ | ⟨⟨m, rfl | rfl⟩, -⟩
  · exact not_isBlank_of_isWord (isWord_of_isDigit hdigit)
  · have hsigns : ['.', '%', '!'].all (!isBlank ·) = true := by decide
    simpa using List.all_eq_true.1 hsigns c hsign
  · decide
  · decide
  · exact not_isBlank_of_isWord (isWord_of_isAlpha halpha)
  · have hchars : ['+', '-', '*', '/', '^', '(', ')', ','].all (!isBlank ·) = true := by decide
    simpa using List.all_eq_true.1 hchars c (Mark.mem_of_mem_chars hc)
  · exact absurd ⟨m, rfl⟩ hspaced

theorem blankRun_text {words : List Word} (htyped : ∀ w ∈ words, ¬ w.IsSpaced) :
    blankRun (text words) = 0 := by
  cases words with
  | nil => rfl
  | cons w rest =>
      obtain ⟨c, others, hchars⟩ := List.exists_cons_of_ne_nil w.chars_ne_nil
      have hblank : isBlank c = false :=
        Word.not_isBlank_of_mem (htyped w List.mem_cons_self) (hchars ▸ List.mem_cons_self)
      simp [blankRun, hchars, hblank]

/-! ## Percentages of a base -/

theorem percentOfBase_of_not_isDigit {previous : Option Char} {c : Char} {rest : List Char}
    (h : isDigit c = false) : percentOfBase previous (c :: rest) = none := by
  have hplain : plain? (c :: rest) = none := plain?_of_not_isDigit (by simpa using h)
  rw [percentOfBase, hplain]
  rfl

theorem Sign.isBlank_char (s : Sign) : isBlank s.char = false := by
  cases s <;> decide

theorem Sign.stops_char (s : Sign) {rest : List Char} : Stops (s.char :: rest) := by
  intro c hc
  cases hc
  cases s <;> exact ⟨by decide, by decide⟩

/-- What the rule looks for behind a literal and a sign. -/
theorem percentOfBase_sign {previous : Option Char} {base : Literal} {s : Sign}
    {rest : List Char} (hblank : blankRun rest = 0) :
    percentOfBase previous (base.chars ++ s.char :: rest) =
      match plain? rest with
      | some (share, '%' :: _) =>
        some (base.chars.length + share.length + 2,
          base.chars ++ ' ' :: s.char :: " (".toList ++ base.chars ++ " * ".toList ++ share ++
            " / 100)".toList)
      | _ => none := by
  have hsign : s.char = '+' ∨ s.char = '-' := by
    cases s
    · exact .inl rfl
    · exact .inr rfl
  have hnone : blankRun (s.char :: rest) = 0 := by
    simp [blankRun, s.isBlank_char]
  rw [percentOfBase, plain?_literal base s.stops_char]
  simp only [Option.bind_eq_bind, Option.bind_some, hnone, List.drop_zero, hblank, if_pos hsign]
  cases plain? rest with
  | none => rfl
  | some found =>
      obtain ⟨share, behindShare⟩ := found
      simp only [Option.bind_some]
      split
      · next others => simp; omega
      · next hno =>
          split
          · next heq => cases heq; exact absurd rfl (hno _)
          · rfl

theorem percentOfBase_of_ne {previous : Option Char} {base : Literal} {rest : List Char}
    (hstops : Stops rest) (hblank : blankRun rest = 0)
    (hsign : ∀ c ∈ rest.head?, c ≠ '+' ∧ c ≠ '-') :
    percentOfBase previous (base.chars ++ rest) = none := by
  rw [percentOfBase, plain?_literal base hstops]
  simp only [Option.bind_eq_bind, Option.bind_some, hblank, List.drop_zero]
  cases rest with
  | nil => rfl
  | cons c others =>
      have hc := hsign c rfl
      simp [hc.1, hc.2]

/-- A literal and a sign without a percentage behind them are not replaced. -/
theorem percentOfBase_sign_of_ne {previous : Option Char} {base : Literal} {s : Sign}
    {words : List Word} (happart : Apart words) (htyped : ∀ w ∈ words, ¬ w.IsSpaced)
    (hno : ∀ share rest, words ≠ .percentage share :: rest) :
    percentOfBase previous (base.chars ++ s.char :: text words) = none := by
  rw [percentOfBase_sign (blankRun_text htyped), plain?_text happart]
  split
  · next share others hfound =>
      rcases of_leadingNumber?_eq_some happart (by decide) hfound with
        ⟨n, rest, -, hwords⟩ | ⟨-, -, hpercent, -⟩
      · exact absurd hwords (hno n rest)
      · exact absurd hpercent (by decide)
  · rfl

/-- A literal without a sign and a percentage behind it is not replaced. -/
theorem percentOfBase_literal {previous : Option Char} {base : Literal} {words : List Word}
    (happart : Apart (.literal base :: words)) (htyped : ∀ w ∈ words, ¬ w.IsSpaced)
    (hno : ∀ s share rest, words ≠ .mark (.sign s) :: .percentage share :: rest) :
    percentOfBase previous (base.chars ++ text words) = none := by
  have hclear : Clear (text words) := clear_of_apart happart rfl
  by_cases hsign : ∃ s tail, words = .mark (.sign s) :: tail
  · obtain ⟨s, tail, rfl⟩ := hsign
    refine percentOfBase_sign_of_ne happart.tail.tail (fun w hw => ?_) fun share rest htail => ?_
    · exact htyped w (List.mem_cons_of_mem _ hw)
    · exact hno s share rest (by rw [htail])
  · refine percentOfBase_of_ne hclear.stops (blankRun_text htyped) fun c hc => ?_
    cases words with
    | nil => cases hc
    | cons v tail =>
        have hv : v.kind ≠ .operand := by
          intro hkind
          cases (apart_cons.1 happart).1 v rfl hkind.symm
        cases v with
        | spaced m => exact absurd ⟨m, rfl⟩ (htyped _ List.mem_cons_self)
        | mark m =>
            cases m with
            | sign s => exact absurd ⟨s, tail, rfl⟩ hsign
            | _ =>
                cases hc
                decide
        | _ => exact absurd rfl hv

private theorem percentOfBase_share {previous : Option Char} {base share : Literal} {s : Sign}
    {rest : List Char} :
    percentOfBase previous (text [.literal base, .mark (.sign s), .percentage share] ++ rest) =
      some ((text [.literal base, .mark (.sign s), .percentage share]).length,
        text (.literal base :: .spaced (.sign s) :: portion base share)) := by
  have hblank : blankRun (share.chars ++ '%' :: rest) = 0 := by
    obtain ⟨c, others, hchars⟩ := List.exists_cons_of_ne_nil share.chars_ne_nil
    have hc : isBlank c = false :=
      @Word.not_isBlank_of_mem (.literal share) (by rintro ⟨m, hm⟩; cases hm) c
        (show c ∈ share.chars from hchars ▸ List.mem_cons_self)
    simp [blankRun, hchars, hc]
  have htext : text [.literal base, .mark (.sign s), .percentage share] ++ rest =
      base.chars ++ s.char :: (share.chars ++ '%' :: rest) := by
    simp [Word.chars, Mark.chars]
  rw [htext, percentOfBase_sign hblank, plain?_literal share stops_percent]
  simp [portion, Word.chars, Mark.chars, Literal.hundred, Literal.chars]
  omega

private theorem percentOfBase_point (previous : Option Char) (rest : List Char) :
    percentOfBase previous ('.' :: rest) = none :=
  percentOfBase_of_not_isDigit (by decide)

/-- A word that is not the base of a percentage stays as it is. -/
theorem replaceAll_percentOfBase_word {w : Word} {rest : List Word} (happart : Apart (w :: rest))
    (htyped : ∀ v ∈ rest, ¬ v.IsSpaced)
    (hno : ∀ base s share tail, w = .literal base →
      rest = .mark (.sign s) :: .percentage share :: tail → False) (previous : Option Char) :
    replaceAll percentOfBase previous (w.chars ++ text rest) =
      w.chars ++ replaceAll percentOfBase (behind previous w.chars) (text rest) := by
  cases w with
  | literal base =>
      refine replaceAll_literal percentOfBase_point fun before m =>
        percentOfBase_literal ?_ htyped fun s share tail => hno base s share tail rfl
      exact apart_cons.2 ⟨fun v hv => (apart_cons.1 happart).1 v hv, happart.tail⟩
  | percentage n =>
      exact replaceAll_signed_literal percentOfBase_point
        (fun _ => percentOfBase_of_not_isDigit (by decide))
        fun before m => percentOfBase_of_ne stops_percent (by rfl) (by simp)
  | factorial n =>
      exact replaceAll_signed_literal percentOfBase_point
        (fun _ => percentOfBase_of_not_isDigit (by decide))
        fun before m => percentOfBase_of_ne stops_exclamation (by rfl) (by simp)
  | _ =>
      refine replaceAll_append_of_forall fun c hc before after => percentOfBase_of_not_isDigit ?_
      exact Word.not_isDigit_of_mem (by simp) hc

/-- The first pass, word by word. -/
theorem replaceAll_percentOfBase {words : List Word} (happart : Apart words)
    (htyped : ∀ w ∈ words, ¬ w.IsSpaced) :
    ∀ previous, replaceAll percentOfBase previous (text words) = text (shares words) := by
  fun_induction shares words with
  | case1 =>
      intro previous
      exact replaceAll_nil _ _
  | case2 base s share rest ih =>
      intro previous
      have hrest := ih happart.tail.tail.tail fun w hw => htyped w (by simp [hw])
      have htext : text (.literal base :: .mark (.sign s) :: .percentage share :: rest) =
          text [.literal base, .mark (.sign s), .percentage share] ++ text rest := by
        simp
      rw [htext, replaceAll_append_of_some (by simp [Word.chars_ne_nil]) percentOfBase_share, hrest]
      simp
  | case3 w rest hno ih =>
      intro previous
      have htyped' : ∀ v ∈ rest, ¬ v.IsSpaced := fun v hv => htyped v (List.mem_cons_of_mem _ hv)
      rw [text_cons, text_cons, replaceAll_percentOfBase_word happart htyped' hno,
        ih happart.tail htyped']

/-! ## Factorials -/

/-- Where no minus stands, the rule looks for a plain number and the sign behind it. -/
theorem factorialSign_of_ne {previous : Option Char} {text : List Char}
    (hminus : ∀ c ∈ text.head?, c ≠ '-') :
    factorialSign previous text =
      match plain? text with
      | some (operand, '!' :: _) =>
        some (operand.length + 1, "factorial(".toList ++ operand ++ [')'])
      | _ => none := by
  have hsplit : ∀ rest, text ≠ '-' :: rest := by
    rintro rest rfl
    exact hminus '-' rfl rfl
  simp only [factorialSign]
  cases plain? text with
  | none => rfl
  | some found =>
      obtain ⟨operand, behindOperand⟩ := found
      simp only [Option.bind_eq_bind, Option.bind_some]
      split
      · simp
      · next hno =>
          split
          · next heq => cases heq; exact absurd rfl (hno _)
          · rfl

/-- At a minus it depends on what stands before. -/
theorem factorialSign_minus {previous : Option Char} {rest : List Char} :
    factorialSign previous ('-' :: rest) =
      if previous.any endsOperand then none
      else
        match plain? rest with
        | some (operand, '!' :: _) =>
          some (operand.length + 2, "factorial(".toList ++ '-' :: operand ++ [')'])
        | _ => none := by
  have hnone : plain? ('-' :: rest) = none := by
    refine plain?_of_not_isDigit fun c hc => ?_
    cases hc
    decide
  by_cases hprevious : previous.any endsOperand
  · simp [factorialSign, hprevious, hnone]
  · simp only [factorialSign, if_neg hprevious]
    cases plain? rest with
    | none => rfl
    | some found =>
        obtain ⟨operand, behindOperand⟩ := found
        simp only [Option.bind_eq_bind, Option.bind_some]
        split
        · simp; omega
        · next hno =>
            split
            · next heq => cases heq; exact absurd rfl (hno _)
            · rfl

theorem Literal.ne_minus_of_head {n : Literal} {rest : List Char} {c : Char}
    (hc : c ∈ (n.chars ++ rest).head?) : c ≠ '-' := by
  rintro rfl
  rcases n.of_mem_chars (@Word.head_chars_append (.literal n) rest '-' hc) with h | h
  · cases h
  · cases h

theorem text_factorialCall (sign : List Word) (n : Literal) :
    text (factorialCall sign n) = "factorial(".toList ++ text sign ++ n.chars ++ [')'] := by
  have hname : "factorial(".toList = Name.factorial.letters ++ ['('] := by decide
  rw [hname]
  simp [factorialCall, Word.chars, Mark.chars]

/-- A factorial without a minus that belongs to it. -/
theorem factorialSign_factorial {previous : Option Char} {n : Literal} {rest : List Char} :
    factorialSign previous (n.chars ++ ['!'] ++ rest) =
      some ((n.chars ++ ['!']).length, text (factorialCall [] n)) := by
  rw [List.append_assoc, List.singleton_append,
    factorialSign_of_ne fun c hc => Literal.ne_minus_of_head hc, plain?_literal n stops_exclamation,
    text_factorialCall]
  simp

/-- A factorial with its minus. -/
theorem factorialSign_minus_factorial {previous : Option Char} {n : Literal} {rest : List Char}
    (hprevious : previous.any endsOperand = false) :
    factorialSign previous ('-' :: (n.chars ++ ['!']) ++ rest) =
      some (('-' :: (n.chars ++ ['!'])).length,
        text (factorialCall [.mark (.sign .minus)] n)) := by
  rw [List.cons_append, List.append_assoc, List.singleton_append, factorialSign_minus,
    if_neg (by simp [hprevious]), plain?_literal n stops_exclamation, text_factorialCall]
  simp [Word.chars, Mark.chars, Sign.char]

theorem Literal.isDigit_of_getLast {n : Literal} {c : Char} (hc : c ∈ n.chars.getLast?) :
    c.isDigit = true := by
  unfold Literal.chars at hc
  by_cases hfraction : n.fraction = []
  · rw [if_pos hfraction, List.append_nil] at hc
    exact n.isDigit_whole c (List.mem_of_getLast? hc)
  · rw [if_neg hfraction, List.getLast?_append_of_ne_nil _ (by simp), List.getLast?_cons] at hc
    rw [List.getLast?_eq_some_getLast hfraction] at hc
    cases hc
    exact n.isDigit_fraction _ (List.getLast_mem hfraction)

private theorem endsOperand_of_isWord {c : Char} (h : isWord c = true) : endsOperand c = true := by
  simp [endsOperand, h]

/-- Whether an operand has just ended can be read off the last character of a word. -/
theorem Word.any_endsOperand_behind (w : Word) (previous : Option Char) :
    (behind previous w.chars).any Entry.endsOperand = w.endsOperand := by
  obtain ⟨c, hc⟩ := Option.ne_none_iff_exists'.1
    (mt List.getLast?_eq_none_iff.1 w.chars_ne_nil)
  rw [behind_of_ne_nil w.chars_ne_nil, hc, Option.any_some]
  cases w with
  | literal n => exact endsOperand_of_isWord (isWord_of_isDigit (n.isDigit_of_getLast hc))
  | percentage n =>
      rw [Word.chars, List.getLast?_concat] at hc
      cases hc
      rfl
  | factorial n =>
      rw [Word.chars, List.getLast?_concat] at hc
      cases hc
      rfl
  | circle =>
      cases hc
      decide
  | euler =>
      cases hc
      decide
  | name n =>
      have halpha := n.isAlpha_letters c (List.mem_of_getLast? hc)
      exact endsOperand_of_isWord (isWord_of_isAlpha halpha)
  | mark m =>
      cases m with
      | sign s => cases s <;> cases hc <;> decide
      | _ => cases hc; decide
  | spaced m =>
      rw [Word.chars, ← List.cons_append, List.getLast?_concat] at hc
      cases hc
      rfl

theorem factorialSign_of_not_isDigit {previous : Option Char} {c : Char} {rest : List Char}
    (hdigit : isDigit c = false) (hminus : c ≠ '-') : factorialSign previous (c :: rest) = none := by
  have hplain : plain? (c :: rest) = none := plain?_of_not_isDigit (by simpa using hdigit)
  rw [factorialSign_of_ne (by simpa using hminus), hplain]

private theorem factorialSign_literal {previous : Option Char} {n : Literal} {rest : List Char}
    (hrest : Stops rest) (hsign : ∀ c ∈ rest.head?, c ≠ '!') :
    factorialSign previous (n.chars ++ rest) = none := by
  rw [factorialSign_of_ne fun c hc => Literal.ne_minus_of_head hc, plain?_literal n hrest]
  cases rest with
  | nil => rfl
  | cons c others =>
      split
      · next heq =>
          cases heq
          exact absurd rfl (hsign '!' rfl)
      · rfl

/-- A minus that no factorial follows. -/
theorem factorialSign_minus_of_ne {previous : Option Char} {words : List Word}
    (happart : Apart words) (hno : ∀ n rest, words ≠ .factorial n :: rest) :
    factorialSign previous ('-' :: text words) = none := by
  rw [factorialSign_minus, plain?_text happart]
  split
  · rfl
  split
  · next operand others hfound =>
      rcases of_leadingNumber?_eq_some happart (by decide) hfound with
        ⟨-, -, hpercent, -⟩ | ⟨n, rest, -, hwords⟩
      · exact absurd hpercent (by decide)
      · exact absurd hwords (hno n rest)
  · rfl

private theorem factorialSign_minus_blank {previous : Option Char} {rest : List Char} :
    factorialSign previous ('-' :: ' ' :: rest) = none := by
  have hplain : plain? (' ' :: rest) = none := by
    refine plain?_of_not_isDigit fun c hc => ?_
    cases hc
    decide
  rw [factorialSign_minus, hplain, ite_self]

theorem replaceAll_factorialSign_mark {m : Mark} {previous : Option Char} {rest : List Char}
    (hminus : m = .sign .minus → ∀ before, factorialSign before ('-' :: rest) = none) :
    replaceAll factorialSign previous (m.chars ++ rest) =
      m.chars ++ replaceAll factorialSign (behind previous m.chars) rest := by
  by_cases hm : m = .sign .minus
  · subst hm
    exact replaceAll_cons_of_none (hminus rfl _)
  · refine replaceAll_append_of_forall fun c hc before after => factorialSign_of_not_isDigit ?_ ?_
    · exact not_isDigit_of_isClear (Mark.isClear_of_mem hc)
    · cases m with
      | sign s => cases s <;> simp_all [Mark.chars, Sign.char]
      | _ => simp_all [Mark.chars]

private theorem factorialSign_point (previous : Option Char) (rest : List Char) :
    factorialSign previous ('.' :: rest) = none :=
  factorialSign_of_not_isDigit (by decide) (by decide)

private theorem factorialSign_blank (previous : Option Char) (rest : List Char) :
    factorialSign previous (' ' :: rest) = none :=
  factorialSign_of_not_isDigit (by decide) (by decide)

private theorem replaceAll_factorialSign_spaced (m : Mark) (previous : Option Char)
    (rest : List Char) :
    replaceAll factorialSign previous ((Word.spaced m).chars ++ rest) =
      (Word.spaced m).chars ++ replaceAll factorialSign (behind previous (Word.spaced m).chars)
        rest := by
  have hmark : ∀ before, replaceAll factorialSign before (m.chars ++ ' ' :: rest) =
      m.chars ++ replaceAll factorialSign (behind before m.chars) (' ' :: rest) :=
    fun before => replaceAll_factorialSign_mark fun _ _ => factorialSign_minus_blank
  rw [Word.chars, List.cons_append, List.append_assoc, List.singleton_append,
    replaceAll_cons_of_none (factorialSign_blank _ _), hmark,
    replaceAll_cons_of_none (factorialSign_blank _ _), behind_cons, behind_append]
  simp [behind]

/-- A word that is neither a factorial nor the minus of one stays as it is. -/
theorem replaceAll_factorialSign_word {w : Word} {rest : List Word} (happart : Apart (w :: rest))
    (hminus : ∀ n tail, w = .mark (.sign .minus) → rest = .factorial n :: tail → False)
    (hfactorial : ∀ n, w = .factorial n → False) (previous : Option Char) :
    replaceAll factorialSign previous (w.chars ++ text rest) =
      w.chars ++ replaceAll factorialSign (behind previous w.chars) (text rest) := by
  cases w with
  | literal n =>
      have hclear : Clear (text rest) := clear_of_apart happart rfl
      exact replaceAll_literal factorialSign_point fun before m =>
        factorialSign_literal hclear.stops (hclear.ne (by decide))
  | percentage n =>
      exact replaceAll_signed_literal factorialSign_point
        (fun _ => factorialSign_of_not_isDigit (by decide) (by decide))
        fun before m => factorialSign_literal stops_percent (by simp)
  | factorial n => exact (hfactorial n rfl).elim
  | mark m =>
      refine replaceAll_factorialSign_mark fun hm before => ?_
      subst hm
      exact factorialSign_minus_of_ne happart.tail fun n tail => hminus n tail rfl
  | spaced m => exact replaceAll_factorialSign_spaced m previous _
  | _ =>
      refine replaceAll_append_of_forall fun c hc before after =>
        factorialSign_of_not_isDigit ?_ ?_
      · exact Word.not_isDigit_of_mem (by simp) hc
      · exact Word.ne_of_mem_chars hc (by decide) (fun _ => by decide) (fun _ => by decide)
          (fun _ => by decide) (by simp)

/-- A minus and the factorial behind it: whether it is the sign of the operand depends on whether
one has ended in front of it. -/
theorem replaceAll_factorialSign_minus {n : Literal} {previous : Option Char} {ended : Bool}
    (hprevious : previous.any endsOperand = ended) (rest : List Char) :
    replaceAll factorialSign previous (text [.mark (.sign .minus), .factorial n] ++ rest) =
      text (if ended then .mark (.sign .minus) :: factorialCall [] n
        else factorialCall [.mark (.sign .minus)] n) ++ replaceAll factorialSign (some '!') rest := by
  have htext : text [.mark (.sign .minus), .factorial n] ++ rest =
      '-' :: (n.chars ++ ['!']) ++ rest := by
    simp [Word.chars, Mark.chars, Sign.char]
  rw [htext]
  cases ended with
  | false =>
      have hlast : ('-' :: (n.chars ++ ['!'])).getLast? = some '!' := by
        rw [← List.cons_append, List.getLast?_concat]
      rw [replaceAll_append_of_some (by simp) (factorialSign_minus_factorial hprevious), hlast]
      simp
  | true =>
      have hminus : factorialSign previous ('-' :: (n.chars ++ ['!'] ++ rest)) = none := by
        rw [factorialSign_minus, if_pos hprevious]
      rw [List.cons_append, replaceAll_cons_of_none hminus,
        replaceAll_append_of_some (by simp) factorialSign_factorial]
      simp [Word.chars, Mark.chars, Sign.char]

/-- The last pass, word by word. -/
theorem replaceAll_factorialSign {words : List Word} {ended : Bool} (happart : Apart words) :
    ∀ previous : Option Char, previous.any endsOperand = ended →
      replaceAll factorialSign previous (text words) = text (factorials ended words) := by
  fun_induction factorials ended words with
  | case1 ended =>
      intro previous _
      exact replaceAll_nil _ _
  | case2 ended n rest ih =>
      intro previous hprevious
      have htext : text (.mark (.sign .minus) :: .factorial n :: rest) =
          text [.mark (.sign .minus), .factorial n] ++ text rest := by
        simp
      rw [htext, replaceAll_factorialSign_minus hprevious,
        ih happart.tail.tail (some '!') (by decide), text_append]
  | case3 ended n rest ih =>
      intro previous _
      have hrest := ih happart.tail (some '!') (by decide)
      rw [text_cons, Word.chars, replaceAll_append_of_some (by simp) factorialSign_factorial]
      simp [hrest]
  | case4 ended w rest hminus hfactorial ih =>
      intro previous _
      rw [text_cons, text_cons, replaceAll_factorialSign_word happart hminus hfactorial,
        ih happart.tail (behind previous w.chars) (w.any_endsOperand_behind previous)]

end DeskCalculator.Surface
