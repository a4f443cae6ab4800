import DeskCalculator.Proofs.Surface.Boundary

/-!
# The passes, word by word

Each pass over the text of a row of words gives the text of another row of
words, which is described here first.  Four of the passes look at one word at a
time, and for these a statement about each word (`Rewrites`) is enough.
-/

namespace DeskCalculator.Surface

open Text Entry

/-! ## What the passes do to words -/

/-- The words that stand for a percentage of a base. -/
def portion (base share : Literal) : List Word :=
  [.mark .opening, .literal base, .spaced .star, .literal share, .spaced .slash,
    .literal .hundred, .mark .closing]

/-- Writes out the percentages that are added to a literal or subtracted from it. -/
def shares : List Word → List Word
  | [] => []
  | .literal base :: .mark (.sign s) :: .percentage share :: rest =>
    .literal base :: .spaced (.sign s) :: (portion base share ++ shares rest)
  | w :: rest => w :: shares rest

/-- Writes out any other percentage. -/
def hundredths : Word → List Word
  | .percentage n =>
    [.mark .opening, .literal n, .mark .slash, .literal .hundred, .mark .closing]
  | w => [w]

/-- Names the circle number. -/
def nameCircle : Word → List Word
  | .circle => [.name .circle]
  | w => [w]

/-- Names the base of the natural logarithm. -/
def nameEuler : Word → List Word
  | .euler => [.name .euler]
  | w => [w]

/-- A mark as the canonical notation has it. -/
def canonicalMark : Mark → Mark
  | .caret => .power
  | m => m

/-- Doubles the power sign. -/
def doublePower : Word → List Word
  | .mark m => [.mark (canonicalMark m)]
  | .spaced m => [.spaced (canonicalMark m)]
  | w => [w]

/-- Whether a minus behind this word is taken for a subtraction. -/
def Word.endsOperand : Word → Bool
  | mark .closing => true
  | w => w.kind = .operand

/-- The words of a call of the factorial function. -/
def factorialCall (sign : List Word) (n : Literal) : List Word :=
  .name .factorial :: .mark .opening :: (sign ++ [.literal n, .mark .closing])

/-- Writes out the factorials of a row of words; `ended` tells whether an operand has just ended
there. -/
def factorials (ended : Bool) : List Word → List Word
  | [] => []
  | .mark (.sign .minus) :: .factorial n :: rest =>
    (if ended then .mark (.sign .minus) :: factorialCall [] n
      else factorialCall [.mark (.sign .minus)] n) ++ factorials true rest
  | .factorial n :: rest => factorialCall [] n ++ factorials true rest
  | w :: rest => w :: factorials w.endsOperand rest

/-- The canonical words of a row of words. -/
def canonicalWords (words : List Word) : List Word :=
  factorials false <| ((((shares words).flatMap hundredths).flatMap nameCircle).flatMap
    nameEuler).flatMap doublePower

/-! ## Passes that look at single words -/

/-- Whether the rule turns each word into its words `f`, provided that an operand stands between
clear characters. -/
def Rewrites (rule : Rule) (f : Word → List Word) : Prop :=
  ∀ (w : Word) (previous : Option Char) (rest : List Char),
    (w.kind = .operand → (∀ c ∈ previous, isClear c = true) ∧ Clear rest) →
    replaceAll rule previous (w.chars ++ rest) =
      text (f w) ++ replaceAll rule (behind previous w.chars) rest

theorem Rewrites.replaceAll_text {rule : Rule} {f : Word → List Word} (h : Rewrites rule f)
    {words : List Word} :
    ∀ {previous : Option Char}, Apart words →
      (∀ w ∈ words.head?, w.kind = .operand → ∀ c ∈ previous, isClear c = true) →
      replaceAll rule previous (text words) = text (words.flatMap f) := by
  induction words with
  | nil =>
      intro previous _ _
      exact replaceAll_nil rule previous
  | cons w rest ih =>
      intro previous happart hprevious
      have hnext : ∀ v ∈ rest.head?, v.kind = .operand → ∀ c ∈ behind previous w.chars,
          isClear c = true := by
        intro v hv hoperand c hc
        refine Word.isClear_of_mem (fun hkind => ?_) (mem_of_mem_behind w.chars_ne_nil hc)
        have := (apart_cons.1 happart).1 v hv (hkind.trans hoperand.symm)
        rw [hkind] at this
        cases this
      rw [text_cons, h w previous (text rest) fun hkind =>
          ⟨hprevious w rfl hkind, clear_of_apart happart hkind⟩,
        ih happart.tail hnext, List.flatMap_cons, text_append]

/-- A word that stays as it is. -/
theorem replaceAll_stays {rule : Rule} {w : Word} {previous : Option Char} {rest : List Char}
    (h : ∀ c ∈ w.chars, ∀ before after, rule before (c :: after) = none) :
    replaceAll rule previous (w.chars ++ rest) =
      text [w] ++ replaceAll rule (behind previous w.chars) rest := by
  rw [replaceAll_append_of_forall h, text_cons, text_nil, List.append_nil]

/-- A literal stays as it is under a rule that matches neither at a point nor at a literal. -/
theorem replaceAll_literal {rule : Rule} {n : Literal} {previous : Option Char} {rest : List Char}
    (hpoint : ∀ before after, rule before ('.' :: after) = none)
    (hliteral : ∀ before (m : Literal), rule before (m.chars ++ rest) = none) :
    replaceAll rule previous (n.chars ++ rest) =
      n.chars ++ replaceAll rule (behind previous n.chars) rest := by
  refine replaceAll_append_of_none fun before c after hsplit => ?_
  rcases n.split hsplit with rfl | ⟨m, hm⟩
  · exact hpoint _ _
  · rw [← hm]
    exact hliteral _ m

/-- The same of a literal with a sign behind it. -/
theorem replaceAll_signed_literal {rule : Rule} {n : Literal} {c : Char} {previous : Option Char}
    {rest : List Char} (hpoint : ∀ before after, rule before ('.' :: after) = none)
    (hsign : ∀ before, rule before (c :: rest) = none)
    (hliteral : ∀ before (m : Literal), rule before (m.chars ++ c :: rest) = none) :
    replaceAll rule previous (n.chars ++ [c] ++ rest) =
      n.chars ++ [c] ++ replaceAll rule (behind previous (n.chars ++ [c])) rest := by
  have hdigits : replaceAll rule previous (n.chars ++ c :: rest) =
      n.chars ++ replaceAll rule (behind previous n.chars) (c :: rest) :=
    replaceAll_literal hpoint hliteral
  rw [List.append_assoc, List.singleton_append, hdigits, replaceAll_cons_of_none (hsign _),
    behind_append, List.append_assoc, List.singleton_append]
  rfl

/-! ### Percentages without a base -/

theorem barePercent_of_not_isDigit {previous : Option Char} {c : Char} {rest : List Char}
    (h : isDigit c = false) : barePercent previous (c :: rest) = none := by
  have hplain : plain? (c :: rest) = none := plain?_of_not_isDigit (by simpa using h)
  rw [barePercent, hplain]
  rfl

private theorem barePercent_literal {previous : Option Char} {n : Literal} {rest : List Char}
    (hrest : Stops rest) (hpercent : ∀ c ∈ rest.head?, c ≠ '%') :
    barePercent previous (n.chars ++ rest) = none := by
  rw [barePercent, plain?_literal n hrest]
  cases rest with
  | nil => rfl
  | cons c others =>
      have := hpercent c rfl
      simp only [Option.bind_eq_bind, Option.bind_some]
      split
      · next heq => exact absurd (List.cons.inj heq).1 this
      · rfl

theorem Clear.ne {rest : List Char} (h : Clear rest) {d : Char} (hd : isClear d = false) :
    ∀ c ∈ rest.head?, c ≠ d := by
  rintro c hc rfl
  rw [h c hc] at hd
  cases hd

theorem not_isDigit_of_isClear {c : Char} (h : isClear c = true) : isDigit c = false := by
  simp_all [isClear]

/-- What the characters of a word can be. -/
theorem Word.of_mem_chars {w : Word} {c : Char} (hc : c ∈ w.chars) :
    (c.isDigit = true ∨ c ∈ ['.', '%', '!']) ∧
        (∃ n, w = .literal n ∨ w = .percentage n ∨ w = .factorial n) ∨
      w = .circle ∧ c = 'π' ∨ w = .euler ∧ c = 'e' ∨ (∃ n, w = .name n) ∧ c.isAlpha = true ∨
      (∃ m, w = .mark m ∨ w = .spaced m) ∧ isClear c = true := by
  have hliteral : ∀ n : Literal, c ∈ n.chars → c.isDigit = true ∨ c ∈ ['.', '%', '!'] := by
    intro n hn
    rcases n.of_mem_chars hn with hdigit | rfl
    · exact .inl hdigit
    · exact .inr (by decide)
  cases w with
  | literal n => exact .inl ⟨hliteral n hc, n, .inl rfl⟩
  | percentage n =>
      refine .inl ⟨?_, n, .inr (.inl rfl)⟩
      rcases List.mem_append.1 hc with hc | hc
      · exact hliteral n hc
      · rw [List.mem_singleton.1 hc]
        exact .inr (by decide)
  | factorial n =>
      refine .inl ⟨?_, n, .inr (.inr rfl)⟩
      rcases List.mem_append.1 hc with hc | hc
      · exact hliteral n hc
      · rw [List.mem_singleton.1 hc]
        exact .inr (by decide)
  | circle => exact .inr (.inl ⟨rfl, List.mem_singleton.1 hc⟩)
  | euler => exact .inr (.inr (.inl ⟨rfl, List.mem_singleton.1 hc⟩))
  | name n => exact .inr (.inr (.inr (.inl ⟨⟨n, rfl⟩, n.isAlpha_letters c hc⟩)))
  | mark m =>
      exact .inr (.inr (.inr (.inr ⟨⟨m, .inl rfl⟩, Mark.isClear_of_mem hc⟩)))
  | spaced m =>
      exact .inr (.inr (.inr (.inr ⟨⟨m, .inr rfl⟩, Word.isClear_of_mem (by simp [kind]) hc⟩)))

/-- A character that no word of this form has. -/
theorem Word.ne_of_mem_chars {w : Word} {c d : Char} (hc : c ∈ w.chars)
    (hsign : d.isDigit = false ∧ d ∉ ['.', '%', '!']) (hcircle : w = .circle → d ≠ 'π')
    (heuler : w = .euler → d ≠ 'e') (hname : (∃ n, w = .name n) → d.isAlpha = false)
    (hmark : (∃ m, w = .mark m ∨ w = .spaced m) → isClear d = false) : c ≠ d := by
  rintro rfl
  rcases Word.of_mem_chars hc with
    ⟨hdigit | hother, -⟩ | ⟨hw, rfl⟩ | ⟨hw, rfl⟩ | ⟨hw, halpha⟩ | ⟨hw, hclear⟩
  · rw [hsign.1] at hdigit
    cases hdigit
  · exact hsign.2 hother
  · exact hcircle hw rfl
  · exact heuler hw rfl
  · rw [hname hw] at halpha
    cases halpha
  · rw [hmark hw] at hclear
    cases hclear

theorem Word.not_isDigit_of_mem {w : Word}
    (hliteral : ∀ n, w ≠ .literal n ∧ w ≠ .percentage n ∧ w ≠ .factorial n) {c : Char}
    (hc : c ∈ w.chars) : isDigit c = false := by
  rcases Word.of_mem_chars hc with ⟨-, n, hw⟩ | ⟨-, rfl⟩ | ⟨-, rfl⟩ | ⟨-, halpha⟩ | ⟨-, hclear⟩
  · have := hliteral n
    tauto
  · decide
  · decide
  · exact not_isDigit_of_isAlpha halpha
  · exact not_isDigit_of_isClear hclear

/-- A rule that needs a digit to start from leaves a word without a literal as it is. -/
theorem replaceAll_without_digit {rule : Rule} {w : Word} {previous : Option Char}
    {rest : List Char} (hrule : ∀ c before after, isDigit c = false → rule before (c :: after) = none)
    (hliteral : ∀ n, w ≠ .literal n ∧ w ≠ .percentage n ∧ w ≠ .factorial n) :
    replaceAll rule previous (w.chars ++ rest) =
      text [w] ++ replaceAll rule (behind previous w.chars) rest := by
  exact replaceAll_stays fun c hc before after =>
    hrule c before after (w.not_isDigit_of_mem hliteral hc)

theorem rewrites_hundredths : Rewrites barePercent hundredths := by
  have hother : ∀ c before after, isDigit c = false → barePercent before (c :: after) = none :=
    fun c before after h => barePercent_of_not_isDigit h
  have hpoint : ∀ before after, barePercent before ('.' :: after) = none :=
    fun before after => hother _ _ _ (by decide)
  intro w previous rest hclear
  cases w with
  | literal n =>
      have hrest := (hclear rfl).2
      rw [Word.chars, replaceAll_literal hpoint fun before m =>
        barePercent_literal hrest.stops (hrest.ne (by decide))]
      simp [hundredths, Word.chars]
  | percentage n =>
      have hmatch : barePercent previous ((n.chars ++ ['%']) ++ rest) =
          some ((n.chars ++ ['%']).length, '(' :: n.chars ++ "/100)".toList) := by
        rw [List.append_assoc, List.singleton_append, barePercent, plain?_literal n stops_percent]
        simp
      rw [Word.chars, replaceAll_append_of_some (by simp) hmatch, behind_of_ne_nil (by simp)]
      simp [hundredths, Word.chars, Mark.chars, Literal.hundred, Literal.chars]
  | factorial n =>
      have hsign : ∀ before, barePercent before ('!' :: rest) = none :=
        fun before => hother _ _ _ (by decide)
      rw [Word.chars, replaceAll_signed_literal hpoint hsign fun before m =>
        barePercent_literal stops_exclamation (by simp)]
      simp [hundredths, Word.chars]
  | circle => exact replaceAll_without_digit hother (by simp)
  | euler => exact replaceAll_without_digit hother (by simp)
  | name n => exact replaceAll_without_digit hother (by simp)
  | mark m => exact replaceAll_without_digit hother (by simp)
  | spaced m => exact replaceAll_without_digit hother (by simp)

/-! ### The constants -/

theorem circleSign_of_ne {previous : Option Char} {c : Char} {rest : List Char} (h : c ≠ 'π') :
    circleSign previous (c :: rest) = none := by
  unfold circleSign
  split
  · next heq => exact absurd (List.cons.inj heq).1 h
  · rfl

theorem rewrites_nameCircle : Rewrites circleSign nameCircle := by
  intro w previous rest _
  by_cases hw : w = .circle
  · subst hw
    have hmatch : circleSign previous (['π'] ++ rest) = some (1, ['P', 'I']) := rfl
    rw [Word.chars, replaceAll_append_of_some (by simp) hmatch]
    rfl
  · have hstays : nameCircle w = [w] := by
      cases w <;> first | rfl | exact absurd rfl hw
    rw [hstays]
    refine replaceAll_stays fun c hc before after => circleSign_of_ne ?_
    exact Word.ne_of_mem_chars hc (by decide) (fun h => absurd h hw) (fun _ => by decide)
      (fun _ => by decide) fun _ => by decide

theorem eulerSign_of_ne {previous : Option Char} {c : Char} {rest : List Char} (h : c ≠ 'e') :
    eulerSign previous (c :: rest) = none := by
  unfold eulerSign
  split
  · next heq => exact absurd (List.cons.inj heq).1 h
  · rfl

/-- The constant is not found within a name, where a letter adjoins each `e`. -/
theorem eulerSign_name {n : Name} {previous : Option Char} {before after rest : List Char} {c : Char}
    (h : n.letters = before ++ c :: after) :
    eulerSign (behind previous before) (c :: after ++ rest) = none := by
  have hletters : ∀ d ∈ before ++ c :: after, isWord d = true := fun d hd =>
    isWord_of_isAlpha (n.isAlpha_letters d (h ▸ hd))
  by_cases hc : c = 'e'
  · subst hc
    rw [List.cons_append, eulerSign, if_pos]
    cases hbefore : before.getLast? with
    | some d =>
        refine .inl ?_
        have hd := hletters d (List.mem_append_left _ (List.mem_of_getLast? hbefore))
        simpa [behind, hbefore] using hd
    | none =>
        rw [List.getLast?_eq_none_iff] at hbefore
        subst hbefore
        cases after with
        | nil => exact absurd h n.letters_ne_euler
        | cons d others =>
            refine .inr ?_
            have hd := hletters d (by simp)
            simpa using hd
  · exact eulerSign_of_ne hc

private theorem any_isWord_of_isClear {previous : Option Char}
    (h : ∀ c ∈ previous, isClear c = true) :
    previous.any isWord = false := by
  cases previous with
  | none => rfl
  | some c =>
      have := h c rfl
      simp_all [isClear]

theorem rewrites_nameEuler : Rewrites eulerSign nameEuler := by
  intro w previous rest hclear
  by_cases hw : w = .euler
  · subst hw
    obtain ⟨hprevious, hrest⟩ := hclear rfl
    have hmatch : eulerSign previous (['e'] ++ rest) = some (1, ['E']) := by
      have hbefore := any_isWord_of_isClear hprevious
      have hafter := any_isWord_of_isClear hrest
      simp [eulerSign, hbefore, hafter]
    rw [Word.chars, replaceAll_append_of_some (by simp) hmatch]
    rfl
  · have hstays : nameEuler w = [w] := by
      cases w <;> first | rfl | exact absurd rfl hw
    rw [hstays]
    by_cases hname : ∃ n, w = .name n
    · obtain ⟨n, rfl⟩ := hname
      rw [Word.chars, replaceAll_append_of_none fun before c after hsplit => eulerSign_name hsplit]
      simp [Word.chars]
    · refine replaceAll_stays fun c hc before after => eulerSign_of_ne ?_
      exact Word.ne_of_mem_chars hc (by decide) (fun _ => by decide) (fun h => absurd h hw)
        (fun h => absurd h hname) fun _ => by decide

/-! ### The power sign -/

theorem powerSign_of_ne {previous : Option Char} {c : Char} {rest : List Char} (h : c ≠ '^') :
    powerSign previous (c :: rest) = none := by
  unfold powerSign
  split
  · next heq => exact absurd (List.cons.inj heq).1 h
  · rfl

private theorem replaceAll_powerSign_mark {m : Mark} {previous : Option Char} {rest : List Char} :
    replaceAll powerSign previous (m.chars ++ rest) =
      (canonicalMark m).chars ++ replaceAll powerSign (behind previous m.chars) rest := by
  by_cases hm : m = .caret
  · subst hm
    have hmatch : powerSign previous (['^'] ++ rest) = some (1, ['*', '*']) := rfl
    rw [Mark.chars, replaceAll_append_of_some (by simp) hmatch]
    rfl
  · have hstays : canonicalMark m = m := by
      cases m <;> first | rfl | exact absurd rfl hm
    rw [hstays]
    refine replaceAll_append_of_forall fun c hc before after => powerSign_of_ne ?_
    rintro rfl
    cases m with
    | caret => exact hm rfl
    | sign s => cases s <;> simp [Mark.chars, Sign.char] at hc
    | _ => simp [Mark.chars] at hc

theorem rewrites_doublePower : Rewrites powerSign doublePower := by
  intro w previous rest _
  by_cases hmark : ∃ m, w = .mark m ∨ w = .spaced m
  · obtain ⟨m, rfl | rfl⟩ := hmark
    · rw [Word.chars, replaceAll_powerSign_mark]
      simp [doublePower, Word.chars]
    · rw [Word.chars, List.cons_append, List.append_assoc,
        replaceAll_cons_of_none (powerSign_of_ne (by decide)), replaceAll_powerSign_mark,
        List.singleton_append, replaceAll_cons_of_none (powerSign_of_ne (by decide)), behind_cons,
        behind_append]
      simp [doublePower, Word.chars, behind]
  · have hstays : doublePower w = [w] := by
      cases w <;> first | rfl | simp at hmark
    rw [hstays]
    refine replaceAll_stays fun c hc before after => powerSign_of_ne ?_
    exact Word.ne_of_mem_chars hc (by decide) (fun _ => by decide) (fun _ => by decide)
      (fun _ => by decide) fun h => absurd h hmark

end DeskCalculator.Surface
