import DeskCalculator.Proofs.Surface.Canonical
import Mathlib.Data.List.TakeWhile

/-!
# The tokens of canonical words

A canonical word has one token.  As the words of a row are kept apart, the
scanner finds exactly these tokens, each at the place where its word stands, and
skips the blanks around the spaced marks.
-/

namespace DeskCalculator.Surface

open Text Entry

/-! ## Tokens of words -/

/-- The kind of token that a mark is. -/
def Mark.tokenKind : Mark → TokenKind
  | power => .power
  | _ => .symbol

/-- Whether a word belongs to the canonical notation. -/
def Word.IsCanonical : Word → Prop
  | literal _ | name _ => True
  | mark m | spaced m => m ≠ .caret
  | _ => False

/-- The token of a canonical word that starts at `position`. -/
def Word.token (position : Nat) : Word → Token
  | literal n => ⟨.number, String.ofList n.chars, position⟩
  | mark m => ⟨m.tokenKind, String.ofList m.chars, position⟩
  | spaced m => ⟨m.tokenKind, String.ofList m.chars, position + 1⟩
  | w => ⟨.name, String.ofList w.chars, position⟩

/-- The tokens of a row of canonical words that starts at `position`. -/
def tokens (position : Nat) : List Word → List Token
  | [] => []
  | w :: rest => w.token position :: tokens (position + w.chars.length) rest

theorem tokens_append (position : Nat) (first second : List Word) :
    tokens position (first ++ second) =
      tokens position first ++ tokens (position + (text first).length) second := by
  induction first generalizing position with
  | nil => rfl
  | cons w rest ih =>
      rw [List.cons_append, tokens, tokens, ih, text_cons, List.length_append, List.cons_append,
        Nat.add_assoc]

/-! ## What the scanner finds -/

/-- What is found at the start is the first token of the text. -/
theorem scan_of_leading? {position : Nat} {chars rest : List Char} {kind : TokenKind}
    (hne : chars ≠ []) (hleading : Token.leading? (chars ++ rest) = some (kind, chars.length)) :
    Token.scan position (chars ++ rest) = (Token.scan (position + chars.length) rest).map
      (⟨kind, String.ofList chars, position⟩ :: ·) := by
  cases chars with
  | nil => exact absurd rfl hne
  | cons c more =>
      rw [List.cons_append] at hleading ⊢
      have hdrop : (more ++ rest).drop ((c :: more).length - 1) = rest := by simp
      have htake : (c :: (more ++ rest)).take (c :: more).length = c :: more := by simp
      rw [Token.scan, hleading]
      simp only [hdrop, htake]
      cases Token.scan (position + (c :: more).length) rest with
      | ok others => rfl
      | error fault => rfl

theorem scan_append {position : Nat} {chars rest : List Char} {kind : TokenKind}
    {others : List Token} (hne : chars ≠ [])
    (hleading : Token.leading? (chars ++ rest) = some (kind, chars.length))
    (hrest : Token.scan (position + chars.length) rest = .ok others) :
    Token.scan position (chars ++ rest) =
      .ok (⟨kind, String.ofList chars, position⟩ :: others) := by
  rw [scan_of_leading? hne hleading, hrest]
  rfl

theorem scan_blank {position : Nat} {c : Char} {rest : List Char} (hblank : isBlank c = true)
    (hleading : Token.leading? (c :: rest) = none) :
    Token.scan position (c :: rest) = Token.scan (position + 1) rest := by
  rw [Token.scan, hleading]
  simp [hblank]

/-! ## Tokens at the start of a text -/

private theorem mantissaLength_of_stops {rest : List Char} (hrest : Stops rest) :
    mantissaLength rest = 0 := by
  have hrun : digitRun rest = 0 := digitRun_eq_zero fun c hc => (hrest c hc).1
  simp only [mantissaLength, hrun, List.drop_zero]
  split
  · exact absurd rfl (hrest '.' rfl).2
  · rfl

theorem numeralLength_of_stops {rest : List Char} (hrest : Stops rest) :
    numeralLength rest = 0 := by
  simp [numeralLength, mantissaLength_of_stops hrest]

theorem mantissaLength_literal (n : Literal) {rest : List Char} (hrest : Stops rest) :
    mantissaLength (n.chars ++ rest) = n.chars.length := by
  have hwhole : n.whole.length ≠ 0 := by simpa using n.whole_ne_nil
  simp only [mantissaLength, n.digitRun_whole hrest, n.drop_whole, n.length_chars]
  by_cases hfraction : n.fraction = []
  · simp only [if_pos hfraction]
    split
    · exact absurd rfl (hrest '.' rfl).2
    · rfl
  · simp only [if_neg hfraction, n.digitRun_fraction hrest, hwhole, false_and, if_false]

/-- The number that the characters of a literal denote. -/
theorem read_literal (n : Literal) :
    Decimal.read n.chars = ⟨digitsValue (n.whole ++ n.fraction), -n.fraction.length⟩ := by
  have htail : n.chars.drop (mantissaLength n.chars) = [] := by
    have hlength := @mantissaLength_literal n [] (by intro c hc; cases hc)
    rw [List.append_nil] at hlength
    rw [hlength, List.drop_length]
  have hwhole : n.chars.takeWhile isDigit = n.whole := by
    unfold Literal.chars
    rw [List.takeWhile_append_of_pos fun c => n.isDigit_of_mem_whole]
    split
    · simp
    · have hpoint : isDigit '.' = false := by decide
      simp [hpoint]
  have hdrop : n.chars.drop n.whole.length =
      if n.fraction = [] then [] else '.' :: n.fraction := by
    simpa using n.drop_whole []
  have hfraction : n.fraction.takeWhile isDigit = n.fraction :=
    List.takeWhile_eq_self_iff.2 fun c => n.isDigit_of_mem_fraction
  have hread : Decimal.readExponent [] = 0 := rfl
  unfold Decimal.read
  simp only [hwhole, hdrop, htail, hread, Int.zero_sub]
  by_cases hnil : n.fraction = []
  · simp [hnil]
  · simp [hnil, hfraction]

theorem exponentLength_of_clear {rest : List Char} (hrest : Clear rest) :
    exponentLength rest = 0 := by
  cases rest with
  | nil => rfl
  | cons c others =>
      have hc := hrest c rfl
      have hsmall : isClear 'e' = false := by decide
      have hlarge : isClear 'E' = false := by decide
      have hne : ¬ (c = 'e' ∨ c = 'E') := by
        rintro (rfl | rfl)
        · rw [hsmall] at hc
          cases hc
        · rw [hlarge] at hc
          cases hc
      simp [exponentLength, hne]

private theorem leading?_literal (n : Literal) {rest : List Char} (hrest : Clear rest) :
    Token.leading? (n.chars ++ rest) = some (.number, n.chars.length) := by
  have hlength : numeralLength (n.chars ++ rest) = n.chars.length := by
    have hpos : n.chars.length ≠ 0 := by simpa using n.chars_ne_nil
    simp [numeralLength, mantissaLength_literal n hrest.stops, hpos,
      exponentLength_of_clear hrest]
  have hpos : n.chars.length ≠ 0 := by simpa using n.chars_ne_nil
  unfold Token.leading?
  rw [hlength, if_pos hpos]

private theorem leading?_name (n : Name) {rest : List Char} (hrest : Clear rest) :
    Token.leading? (n.letters ++ rest) = some (.name, n.letters.length) := by
  obtain ⟨c, others, hletters⟩ := List.exists_cons_of_ne_nil n.letters_ne_nil
  have halpha : c.isAlpha = true := n.isAlpha_letters c (by simp [hletters])
  have hnumeral : numeralLength (n.letters ++ rest) = 0 := by
    refine numeralLength_of_stops fun d hd => ?_
    rw [hletters] at hd
    cases hd
    refine ⟨not_isDigit_of_isAlpha halpha, ?_⟩
    rintro rfl
    cases halpha
  have hname : Token.nameLength (n.letters ++ rest) = n.letters.length := by
    have hothers : ∀ d ∈ others, isWord d = true := fun d hd =>
      isWord_of_isAlpha (n.isAlpha_letters d (by simp [hletters, hd]))
    have hrun : ((others ++ rest).takeWhile isWord).length = others.length := by
      rw [List.takeWhile_append_of_pos hothers]
      cases rest with
      | nil => simp
      | cons d more =>
          have hd := hrest d rfl
          have hword : isWord d = false := by simp_all [isClear]
          simp [hword]
    simp [hletters, Token.nameLength, isLetter, halpha, hrun]
    omega
  have hpos : n.letters.length ≠ 0 := by simpa using n.letters_ne_nil
  unfold Token.leading?
  rw [hnumeral, hname, if_neg (by simp), if_pos hpos]

/-- The characters with which neither a number nor a name starts. -/
theorem leading?_of_isClear {c : Char} {rest : List Char} (hc : isClear c = true)
    (hpower : c = '*' → ∀ d ∈ rest.head?, d ≠ '*') :
    Token.leading? (c :: rest) = if c ∈ Token.symbols then some (.symbol, 1) else none := by
  have hclear : Clear (c :: rest) := by
    intro d hd
    cases hd
    exact hc
  have hnumeral := numeralLength_of_stops hclear.stops
  have hword : isWord c = false := by simp_all [isClear]
  have hname : Token.nameLength (c :: rest) = 0 := by
    have hletter : ¬ (isLetter c = true ∨ c = '_') := by
      rintro (halpha | rfl)
      · rw [isWord_of_isAlpha halpha] at hword
        cases hword
      · cases hword
    simp [Token.nameLength, hletter]
  unfold Token.leading?
  rw [hnumeral, hname, if_neg (by simp), if_neg (by simp)]
  split
  · next heq =>
      cases heq
      exact absurd rfl (hpower rfl '*' rfl)
  · next heq =>
      cases heq
      rfl
  · next heq => cases heq

theorem leading?_power {rest : List Char} :
    Token.leading? ('*' :: '*' :: rest) = some (.power, 2) := by
  have hstops : Stops ('*' :: '*' :: rest) := by
    intro d hd
    cases hd
    exact ⟨by decide, by decide⟩
  have hname : Token.nameLength ('*' :: '*' :: rest) = 0 := rfl
  simp [Token.leading?, numeralLength_of_stops hstops, hname]

private theorem leading?_mark {m : Mark} {rest : List Char} (hm : m ≠ .caret)
    (hstar : m = .star → ∀ c ∈ rest.head?, c ≠ '*') :
    Token.leading? (m.chars ++ rest) = some (m.tokenKind, m.chars.length) := by
  have hclear : ∀ c ∈ m.chars, isClear c = true := fun c hc => Mark.isClear_of_mem hc
  cases m with
  | caret => exact absurd rfl hm
  | power => exact leading?_power
  | star =>
      rw [Mark.chars, List.singleton_append,
        leading?_of_isClear (hclear _ List.mem_cons_self) fun _ => hstar rfl]
      rfl
  | sign s =>
      rw [Mark.chars, List.singleton_append, leading?_of_isClear (hclear _ List.mem_cons_self)]
      · cases s <;> rfl
      · cases s <;> simp [Sign.char]
  | _ =>
      rw [Mark.chars, List.singleton_append,
        leading?_of_isClear (hclear _ List.mem_cons_self) (by simp)]
      rfl

theorem leading?_blank {rest : List Char} : Token.leading? (' ' :: rest) = none := by
  rw [leading?_of_isClear (by decide) (by simp)]
  rfl

/-! ## The tokens of a text -/

/-- Only the stars start with a star. -/
theorem Word.ne_star_of_head {w : Word} (hkind : w.kind ≠ .star) {c : Char}
    (hc : c ∈ w.chars.head?) : c ≠ '*' := by
  rintro rfl
  have hmem := List.mem_of_head? hc
  rcases Word.of_mem_chars hmem with
    ⟨hdigit | hsign, -⟩ | ⟨-, h⟩ | ⟨-, h⟩ | ⟨-, halpha⟩ | ⟨⟨m, rfl | rfl⟩, -⟩
  · cases hdigit
  · simp at hsign
  · cases h
  · cases h
  · cases halpha
  · cases m with
    | sign s => cases s <;> cases hc
    | star => exact hkind rfl
    | power => exact hkind rfl
    | _ => cases hc
  · cases hc

/-- The scanner finds the tokens of the words. -/
theorem scan_text {words : List Word} (happart : Apart words)
    (hcanonical : ∀ w ∈ words, w.IsCanonical) (position : Nat) :
    Token.scan position (text words) = .ok (tokens position words) := by
  induction words generalizing position with
  | nil => simp [Token.scan, tokens]
  | cons w rest ih =>
      have hrest := ih happart.tail fun v hv => hcanonical v (List.mem_cons_of_mem _ hv)
      have hw := hcanonical w List.mem_cons_self
      rw [text_cons, tokens]
      cases w with
      | literal n =>
          exact scan_append n.chars_ne_nil (leading?_literal n (clear_of_apart happart rfl)) (hrest _)
      | name n =>
          exact scan_append n.letters_ne_nil (leading?_name n (clear_of_apart happart rfl)) (hrest _)
      | mark m =>
          refine scan_append (Word.mark m).chars_ne_nil (leading?_mark hw ?_) (hrest _)
          rintro rfl c hc
          cases rest with
          | nil => cases hc
          | cons v more =>
              rw [text_cons, List.head?_append_of_ne_nil _ v.chars_ne_nil] at hc
              refine Word.ne_star_of_head (fun hkind => ?_) hc
              cases (apart_cons.1 happart).1 v rfl hkind.symm
      | spaced m =>
          have hlast : Token.scan (position + 1 + m.chars.length) (' ' :: text rest) =
              .ok (tokens (position + (Word.spaced m).chars.length) rest) := by
            have hlength : position + 1 + m.chars.length + 1 =
                position + (Word.spaced m).chars.length := by
              simp only [Word.chars, List.length_cons, List.length_append, List.length_nil]
              omega
            rw [scan_blank (by decide) leading?_blank, hlength]
            exact hrest _
          have hmark := scan_append (Word.mark m).chars_ne_nil
            (leading?_mark hw fun _ c hc => by cases hc; decide) hlast
          rw [Word.chars, List.cons_append, List.append_assoc, List.singleton_append,
            scan_blank (by decide) leading?_blank]
          exact hmark
      | _ => exact absurd hw id

end DeskCalculator.Surface
