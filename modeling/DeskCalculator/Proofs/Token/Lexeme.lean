import DeskCalculator.Proofs.Token.Number

/-!
# Lexemes

A token is written as a numeral, a name, the power sign or a symbol, and `Lexeme` is the
grammar of these texts.  The scanner takes the longest lexeme at the start of a text
(`leading?_eq_some_iff`), and it takes nothing only where no lexeme starts
(`leading?_eq_none_iff`).

## Strategy

What the scanner takes is a lexeme (`exists_lexeme_of_leading?`), and it takes no less
than any lexeme that the text starts with (`Lexeme.leading?_append`).  For numerals both
are shown part by part: an exponent is no part of a mantissa, so a longer mantissa never
costs an exponent.
-/

namespace DeskCalculator.Token

open Text Entry Surface

/-! ## The grammar of tokens -/

/-- The texts of tokens. -/
inductive Lexeme : TokenKind → List Char → Prop
  | number {mantissa exponent : List Char} (is : Mantissa mantissa)
      (has : exponent = [] ∨ IsExponent exponent) : Lexeme .number (mantissa ++ exponent)
  | name {c : Char} {rest : List Char} (first : isLetter c = true ∨ c = '_')
      (others : ∀ d ∈ rest, isWord d = true) : Lexeme .name (c :: rest)
  | power : Lexeme .power ['*', '*']
  | symbol {c : Char} (mem : c ∈ symbols) : Lexeme .symbol [c]

/-- Whether these characters are the longest lexeme at the start of a text, which goes on with
`rest`. -/
structure Longest (kind : TokenKind) (chars rest : List Char) : Prop where
  lexeme : Lexeme kind chars
  longest : ∀ other found, Lexeme other found → found <+: chars ++ rest →
    found.length ≤ chars.length

/-- Whether some lexeme stands at the start of a text. -/
def StartsLexeme (text : List Char) : Prop :=
  ∃ kind chars, Lexeme kind chars ∧ chars <+: text

/-! ## Numerals -/

theorem Mantissa.length_le {mantissa : List Char} (h : Mantissa mantissa) (rest : List Char) :
    mantissa.length ≤ mantissaLength (mantissa ++ rest) := by
  cases h with
  | whole ne all =>
      exact (length_le_digitRun_append all rest).trans (digitRun_le_mantissaLength _)
  | @point whole fraction ne all =>
      have hrun : digitRun (whole ++ '.' :: (fraction ++ rest)) = whole.length := by
        refine digitRun_append (fun c hc => all c (List.mem_append_left _ hc)) ?_
        rintro c ⟨⟩
        decide
      have hfraction := length_le_digitRun_append
        (fun c hc => all c (List.mem_append_right whole hc)) rest
      have hsome : ¬ (whole.length = 0 ∧ digitRun (fraction ++ rest) = 0) := by
        rintro ⟨hleft, hright⟩
        have hlength : (whole ++ fraction).length = 0 := by
          rw [List.length_append]
          omega
        exact ne (List.length_eq_zero_iff.1 hlength)
      unfold mantissaLength
      simp only [List.append_assoc, List.cons_append, hrun, List.drop_left]
      rw [if_neg hsome, List.length_append, List.length_cons]
      omega

theorem Mantissa.ne_nil {mantissa : List Char} (h : Mantissa mantissa) : mantissa ≠ [] := by
  cases h with
  | whole ne all => exact ne
  | point ne all => simp

theorem Mantissa.isMantissa {mantissa : List Char} (h : Mantissa mantissa) :
    IsMantissa mantissa := by
  refine ⟨h.ne_nil, Nat.le_antisymm ?_ ?_⟩
  · by_cases hnone : mantissaLength mantissa = 0
    · omega
    · obtain ⟨first, rest, hsplit, hlength, -⟩ := exists_mantissa hnone
      rw [← hlength, hsplit, List.length_append]
      exact Nat.le_add_right _ _
  · have hlength := h.length_le []
    rwa [List.append_nil] at hlength

theorem IsExponent.length_le {exponent : List Char} (h : IsExponent exponent) (rest : List Char) :
    exponent.length ≤ exponentLength (exponent ++ rest) := by
  cases h with
  | @of mark sign run hmark hsign hne hdigits =>
      have hhead : ∀ c ∈ (run ++ rest).head?, c ≠ '+' ∧ c ≠ '-' := by
        intro c hc
        rw [List.head?_append_of_ne_nil _ hne] at hc
        exact not_sign_of_numeric (.inl (hdigits c (List.mem_of_head? hc)))
      have hrun := length_le_digitRun_append hdigits rest
      have hpos : run.length ≠ 0 := by simpa using hne
      have hsome : digitRun (run ++ rest) ≠ 0 := by omega
      rw [List.cons_append, List.append_assoc, exponentLength, if_pos hmark]
      simp only [splitSign_of_digits hsign hhead, if_neg hsome, List.length_append,
        List.length_cons]
      omega

/-- The scanner's numeral is one. -/
theorem exists_numeral {text : List Char} (hlength : numeralLength text ≠ 0) :
    ∃ numeral rest, text = numeral ++ rest ∧ numeral.length = numeralLength text ∧
      Lexeme .number numeral := by
  rw [numeralLength] at hlength ⊢
  split at hlength
  · exact absurd rfl hlength
  · next hsome =>
      obtain ⟨mantissa, behind, rfl, hmantissa, his⟩ := exists_mantissa hsome
      rw [if_neg hsome, ← hmantissa, List.drop_left]
      rcases exponentLength_cases behind with
        hnone | ⟨mark, sign, run, rest, rfl, hexponent, hmark, hsign, hrun, hdigits⟩
      · refine ⟨mantissa, behind, rfl, by omega, ?_⟩
        have hlexeme := Lexeme.number his (.inl rfl)
        rwa [List.append_nil] at hlexeme
      · refine ⟨mantissa ++ mark :: (sign ++ run), rest, by rw [List.append_assoc], ?_,
          .number his (.inr (.of hmark hsign hrun hdigits))⟩
        rw [hexponent, List.length_append]

private theorem length_le_numeralLength {mantissa exponent : List Char} (is : Mantissa mantissa)
    (has : exponent = [] ∨ IsExponent exponent) (rest : List Char) :
    (mantissa ++ exponent).length ≤ numeralLength (mantissa ++ exponent ++ rest) := by
  have hpos := List.length_pos_of_ne_nil is.ne_nil
  rw [numeralLength]
  rcases has with rfl | has
  · rw [List.append_nil]
    have hlength := is.length_le rest
    rw [if_neg (by omega)]
    omega
  · have hmantissa : mantissaLength (mantissa ++ (exponent ++ rest)) = mantissa.length := by
      rw [mantissaLength_append has.stops, is.isMantissa.length]
    rw [List.append_assoc, hmantissa, if_neg (by omega), List.drop_left, List.length_append]
    exact Nat.add_le_add_left (has.length_le rest) _

/-! ## What the scanner takes -/

/-- What the scanner takes is a lexeme. -/
theorem exists_lexeme_of_leading? {text : List Char} {kind : TokenKind} {length : Nat}
    (h : leading? text = some (kind, length)) :
    ∃ chars rest, text = chars ++ rest ∧ chars.length = length ∧ Lexeme kind chars := by
  unfold leading? at h
  split at h
  · next hsome =>
      cases h
      exact exists_numeral hsome
  split at h
  · next hsome =>
      cases h
      cases text with
      | nil => exact absurd rfl hsome
      | cons c after =>
          rw [nameLength] at hsome ⊢
          split at hsome
          · next hfirst =>
              refine ⟨c :: after.takeWhile isWord, after.dropWhile isWord, ?_, ?_,
                .name hfirst fun d hd => List.mem_takeWhile_imp hd⟩
              · rw [List.cons_append, List.takeWhile_append_dropWhile]
              · rw [if_pos hfirst, List.length_cons, Nat.add_comm]
          · exact absurd rfl hsome
  split at h
  · next rest _ _ =>
      cases h
      exact ⟨['*', '*'], rest, rfl, rfl, .power⟩
  · next c rest _ _ _ =>
      split at h
      · next hmem =>
          cases h
          exact ⟨[c], rest, rfl, rfl, .symbol hmem⟩
      · cases h
  · cases h

private theorem isClear_of_mem_symbols {c : Char} (h : c ∈ symbols) : isClear c = true := by
  have hall : symbols.all isClear = true := by decide
  exact List.all_eq_true.1 hall c h

private theorem not_numeric_of_first {c : Char} (h : isLetter c = true ∨ c = '_') :
    isDigit c = false ∧ c ≠ '.' := by
  rcases h with hletter | rfl
  · refine ⟨not_isDigit_of_isAlpha hletter, ?_⟩
    rintro rfl
    exact absurd hletter (by decide)
  · exact ⟨by decide, by decide⟩

/-- The scanner takes no less than any lexeme at the start, and another kind only with more. -/
theorem Lexeme.leading?_append {kind : TokenKind} {chars : List Char} (h : Lexeme kind chars)
    (rest : List Char) : ∃ found length, leading? (chars ++ rest) = some (found, length) ∧
      chars.length ≤ length ∧ (length = chars.length → found = kind) := by
  cases h with
  | @number mantissa exponent is has =>
      have hlength := length_le_numeralLength is has rest
      have hpos := List.length_pos_of_ne_nil is.ne_nil
      have hsome : numeralLength (mantissa ++ exponent ++ rest) ≠ 0 := by
        rw [List.length_append] at hlength
        omega
      refine ⟨.number, numeralLength (mantissa ++ exponent ++ rest), ?_, hlength, fun _ => rfl⟩
      unfold leading?
      rw [if_pos hsome]
  | @name c others first hothers =>
      have hnumeral : numeralLength (c :: (others ++ rest)) = 0 := by
        refine numeralLength_of_stops ?_
        rintro d ⟨⟩
        exact not_numeric_of_first first
      have hlength : (c :: others).length ≤ nameLength (c :: (others ++ rest)) := by
        rw [nameLength, if_pos first, List.takeWhile_append_of_pos hothers, List.length_append,
          List.length_cons]
        omega
      have hsome : nameLength (c :: (others ++ rest)) ≠ 0 := by
        rw [List.length_cons] at hlength
        omega
      refine ⟨.name, nameLength (c :: (others ++ rest)), ?_, hlength, fun _ => rfl⟩
      rw [List.cons_append]
      unfold leading?
      rw [hnumeral, if_neg (by simp), if_pos hsome]
  | power => exact ⟨.power, 2, leading?_power, Nat.le_refl _, fun _ => rfl⟩
  | @symbol c mem =>
      by_cases hpower : c = '*' ∧ rest.head? = some '*'
      · obtain ⟨rfl, hhead⟩ := hpower
        cases rest with
        | nil => cases hhead
        | cons d others =>
            cases hhead
            exact ⟨.power, 2, leading?_power, by simp, by simp⟩
      · refine ⟨.symbol, 1, ?_, Nat.le_refl _, fun _ => rfl⟩
        rw [List.singleton_append, leading?_of_isClear (isClear_of_mem_symbols mem), if_pos mem]
        rintro rfl d hd rfl
        exact hpower ⟨rfl, hd⟩

/-- The scanner takes the longest lexeme. -/
theorem leading?_eq_some_iff {kind : TokenKind} {chars rest : List Char} :
    leading? (chars ++ rest) = some (kind, chars.length) ↔ Longest kind chars rest := by
  constructor
  · intro h
    obtain ⟨taken, behind, hsplit, hlength, hlexeme⟩ := exists_lexeme_of_leading? h
    obtain ⟨rfl, -⟩ := List.append_inj hsplit hlength.symm
    refine ⟨hlexeme, fun other found hfound ⟨behind, hstart⟩ => ?_⟩
    obtain ⟨_, length, hleading, hle, -⟩ := hfound.leading?_append behind
    rw [hstart, h] at hleading
    cases hleading
    exact hle
  · rintro ⟨hlexeme, hlongest⟩
    obtain ⟨found, length, hleading, hle, hkind⟩ := hlexeme.leading?_append rest
    obtain ⟨taken, behind, hsplit, rfl, htaken⟩ := exists_lexeme_of_leading? hleading
    have hlength : taken.length = chars.length :=
      Nat.le_antisymm (hlongest _ _ htaken ⟨behind, hsplit.symm⟩) hle
    rw [hleading, hkind hlength, hlength]

/-- The scanner takes nothing only where no lexeme starts. -/
theorem leading?_eq_none_iff {text : List Char} :
    leading? text = none ↔ ¬ StartsLexeme text := by
  constructor
  · rintro h ⟨kind, chars, hlexeme, rest, rfl⟩
    obtain ⟨found, length, hleading, -⟩ := hlexeme.leading?_append rest
    rw [h] at hleading
    cases hleading
  · intro h
    cases hleading : leading? text with
    | none => rfl
    | some taken =>
        obtain ⟨chars, rest, rfl, -, hlexeme⟩ := exists_lexeme_of_leading? hleading
        exact absurd ⟨_, chars, hlexeme, List.prefix_append chars rest⟩ h

/-! ## Lexemes apart from each other -/

theorem Mantissa.isNumeral {mantissa : List Char} (h : Mantissa mantissa) :
    ∀ c ∈ mantissa, isNumeral c = true :=
  (numberLike_of_numeric h.isMantissa.numeric).mem

/-- A lexeme is a chunk with nothing behind it. -/
theorem Lexeme.chunk {kind : TokenKind} {chars : List Char} (h : Lexeme kind chars) :
    Chunk kind chars [] := by
  cases h with
  | @number mantissa exponent is has =>
      refine .number ?_ (List.append_ne_nil_of_left_ne_nil is.ne_nil _)
      intro c hc
      rcases List.mem_append.1 hc with hc | hc
      · exact is.isNumeral c hc
      · rcases has with rfl | has
        · cases hc
        · exact has.numberLike.mem c hc
  | @name c others first hothers =>
      have hword : isWord c = true := by
        rcases first with hletter | rfl
        · exact isWord_of_isAlpha hletter
        · decide
      exact .name (List.forall_mem_cons.2 ⟨hword, hothers⟩) (List.cons_ne_nil _ _) (by simp)
  | power => exact .power
  | symbol mem => exact .symbol mem

/-- A lexeme is the longest one in front of a blank, as no lexeme contains a blank. -/
theorem Lexeme.longest_of_blank {kind : TokenKind} {chars rest : List Char}
    (h : Lexeme kind chars) (hrest : ∀ c ∈ rest.head?, isBlank c = true) :
    Longest kind chars rest := by
  refine ⟨h, fun other found hfound hstart => ?_⟩
  by_contra hlonger
  have hlength : chars.length < found.length := Nat.lt_of_not_le hlonger
  obtain ⟨more, rfl⟩ : chars <+: found :=
    List.prefix_of_prefix_length_le (List.prefix_append chars rest) hstart hlength.le
  have hmore : more <+: rest := (List.prefix_append_right_inj chars).1 hstart
  cases more with
  | nil => simp at hlength
  | cons c others =>
      obtain ⟨behind, rfl⟩ := hmore
      have hblank := hrest c rfl
      rw [hfound.chunk.not_isBlank c (by simp)] at hblank
      cases hblank

end DeskCalculator.Token
