import DeskCalculator.Proofs.Entry.Outline
import DeskCalculator.Proofs.Grammar.Phrases
import DeskCalculator.Proofs.Token.Chunks

/-!
# The outline of scanned tokens

The outline of a text can be read off its tokens: a parenthesis or a comma
stands for itself, and any other token for a filler (`Scanned.outlines`).  A
call of a function of two arguments in the text is a name token that ends in the
name of the function, with an opening parenthesis behind it
(`Scanned.callsWith`).
-/

namespace DeskCalculator.Token

open Text Entry

/-! ## The outline -/

/-- The character that has the outline of a token. -/
def mark (token : Token) : Char :=
  match token.kind, token.text with
  | .symbol, "(" => '('
  | .symbol, ")" => ')'
  | .symbol, "," => ','
  | _, _ => '0'

/-- The text that has the outline of these tokens. -/
def sketch (tokens : List Token) : List Char := tokens.map mark

theorem mark_of_is {token : Token} {kind : TokenKind} {text : String}
    (h : token.Is kind text) : mark token = mark ⟨kind, text, 0⟩ := by
  obtain ⟨kind, text, position⟩ := token
  obtain ⟨rfl, rfl⟩ := h
  rfl

/-- A chunk without parentheses and commas is a filler. -/
theorem Chunk.filler {kind : TokenKind} {chars rest : List Char} (h : Chunk kind chars rest)
    (houtline : ∀ c ∈ chars, isOutline c = false) : Filler chars := by
  obtain ⟨c, hc⟩ := List.exists_mem_of_ne_nil _ h.ne_nil
  exact filler_of_mem (neutral_of_forall houtline) hc (h.not_isBlank c hc)

/-- A chunk is a filler, or the parenthesis or comma that stands for its token. -/
theorem Chunk.outlines {kind : TokenKind} {chars rest first second : List Char}
    (h : Chunk kind chars rest) (position : Nat) (hrest : Outlines first second) :
    Outlines (chars ++ first) (mark ⟨kind, String.ofList chars, position⟩ :: second) := by
  have hzero : Filler ['0'] :=
    @filler_of_mem _ '0' (neutral_singleton (by decide)) List.mem_cons_self (by decide)
  have hswap : (∀ c ∈ chars, isOutline c = false) →
      Outlines (chars ++ first) ('0' :: second) := fun houtline =>
    .swap (h.filler houtline) hzero hrest
  cases h with
  | number mem ne => exact hswap fun c hc => not_isOutline_of_class (by decide) (mem c hc)
  | name mem ne stop => exact hswap fun c hc => not_isOutline_of_class (by decide) (mem c hc)
  | power => exact hswap (by simp [isOutline])
  | symbol mem =>
      simp only [symbols, List.mem_cons, List.not_mem_nil, or_false] at mem
      rcases mem with rfl | rfl | rfl | rfl | rfl | rfl | rfl
      · exact hswap (by simp [isOutline])
      · exact hswap (by simp [isOutline])
      · exact hswap (by simp [isOutline])
      · exact hswap (by simp [isOutline])
      · exact .keep '(' hrest
      · exact .keep ')' hrest
      · exact .keep ',' hrest

theorem Scanned.outlines {text : List Char} {tokens : List Token} (h : Scanned text tokens) :
    Outlines text (sketch tokens) := by
  induction h with
  | nil => exact .nil
  | token position chunk others ih => exact chunk.outlines position ih
  | blank hblank others ih => exact .blank hblank ih

/-! ## Calls -/

/-- A scanned text starts with a chunk or with a blank. -/
theorem Scanned.head {c : Char} {rest : List Char} {tokens : List Token}
    (h : Scanned (c :: rest) tokens) :
    (∃ kind chars after position others, rest = chars ++ after ∧ Chunk kind (c :: chars) after ∧
      tokens = ⟨kind, String.ofList (c :: chars), position⟩ :: others ∧ Scanned after others) ∨
    (isBlank c = true ∧ Scanned rest tokens) := by
  generalize htext : c :: rest = text at h
  cases h with
  | nil => cases htext
  | @token kind chars after others position chunk hothers =>
      cases chars with
      | nil => exact absurd rfl chunk.ne_nil
      | cons d chars =>
          obtain ⟨rfl, rfl⟩ := List.cons.inj htext
          exact .inl ⟨kind, chars, after, position, others, rfl, chunk, rfl, hothers⟩
  | blank hblank others =>
      obtain ⟨rfl, rfl⟩ := List.cons.inj htext
      exact .inr ⟨hblank, others⟩

/-- An opening parenthesis behind blanks is the first token. -/
theorem Scanned.opening {gap inside : List Char} {tokens : List Token}
    (h : Scanned (gap ++ '(' :: inside) tokens) (hgap : ∀ c ∈ gap, isBlank c = true) :
    ∃ opening last, tokens = opening :: last ∧ opening.Is .symbol "(" ∧ Scanned inside last := by
  induction gap with
  | nil =>
      rcases h.head with ⟨kind, chars, after, position, others, hinside, chunk, htokens, hothers⟩ |
        ⟨hblank, -⟩
      · have hsymbol : kind = .symbol ∧ chars = [] := by
          cases chunk with
          | number mem ne => exact absurd (mem '(' List.mem_cons_self) (by decide)
          | name mem ne stop => exact absurd (mem '(' List.mem_cons_self) (by decide)
          | symbol mem => exact ⟨rfl, rfl⟩
        obtain ⟨rfl, rfl⟩ := hsymbol
        exact ⟨_, others, htokens, ⟨rfl, rfl⟩, by rwa [hinside]⟩
      · exact absurd hblank (by decide)
  | cons c gap ih =>
      have hblank := hgap c List.mem_cons_self
      rcases h.head with ⟨kind, chars, after, position, others, -, chunk, -, -⟩ | ⟨-, hrest⟩
      · have hnot := chunk.not_isBlank c List.mem_cons_self
        rw [hblank] at hnot
        cases hnot
      · exact ih hrest fun d hd => hgap d (List.mem_cons_of_mem _ hd)

/-- Where a chunk reaches into a name made of letters that are in no numeral, it is a name that ends
with it. -/
theorem Chunk.ends {kind : TokenKind} {before later rest name behind : List Char}
    (h : Chunk kind (before ++ later) rest) (hlater : later ≠ []) (hne : name ≠ [])
    (hname : ∀ c ∈ name, isLetter c = true ∧ isNumeral c = false)
    (hbehind : ∀ c ∈ behind.head?, isWord c = false) (hsplit : later ++ rest = name ++ behind) :
    kind = .name ∧ later = name ∧ rest = behind := by
  obtain ⟨c, others, rfl⟩ := List.exists_cons_of_ne_nil hlater
  obtain ⟨d, letters, rfl⟩ := List.exists_cons_of_ne_nil hne
  obtain ⟨rfl, -⟩ := List.cons.inj hsplit
  obtain ⟨hletter, hnumeral⟩ := hname c List.mem_cons_self
  have hmem : c ∈ before ++ c :: others := List.mem_append_right _ List.mem_cons_self
  generalize hchars : before ++ c :: others = chars at h hmem
  cases h with
  | number mem ne =>
      rw [mem c hmem] at hnumeral
      cases hnumeral
  | power =>
      have hstar : c = '*' := by simpa using hmem
      rw [hstar] at hletter
      exact absurd hletter (by decide)
  | symbol mem =>
      have hall : symbols.all (fun c => !isLetter c) = true := by decide
      have hnot := List.all_eq_true.1 hall _ mem
      rw [← List.mem_singleton.1 hmem, hletter] at hnot
      cases hnot
  | name mem ne stop =>
      have hrun : ∀ e ∈ c :: others, isWord e = true := fun e he =>
        mem e (hchars ▸ List.mem_append_right _ he)
      have hword : ∀ e ∈ c :: letters, isWord e = true := fun e he =>
        isWord_of_isAlpha (hname e he).1
      have hlater : c :: others = c :: letters := by
        rw [← takeWhile_append_of_stop hrun stop, hsplit, takeWhile_append_of_stop hword hbehind]
      rw [hlater] at hsplit
      exact ⟨rfl, hlater, List.append_cancel_left hsplit⟩

/-- A call in a scanned text is a name token with an opening parenthesis behind it. -/
theorem Scanned.callsWith {name inside text : List Char} {tokens : List Token}
    (h : Scanned text tokens) (hne : name ≠ [])
    (hname : ∀ c ∈ name, isLetter c = true ∧ isNumeral c = false)
    (hcalls : CallsWith name inside text) :
    ∃ first token opening last, tokens = first ++ token :: opening :: last ∧ token.kind = .name ∧
      (∃ start, token.text.toList = start ++ name) ∧ opening.Is .symbol "(" ∧
      Scanned inside last := by
  obtain ⟨before, gap, htext, hgap⟩ := hcalls
  have hletter : ∀ c ∈ name, isBlank c = false := fun c hc =>
    not_isBlank_of_isWord (isWord_of_isAlpha (hname c hc).1)
  have hbehind : ∀ c ∈ (gap ++ '(' :: inside).head?, isWord c = false := by
    cases gap with
    | nil => simp [isWord]
    | cons c gap =>
        intro d hd
        obtain rfl : c = d := by simpa using hd
        rw [Bool.eq_false_iff]
        intro hword
        have hblank := not_isBlank_of_isWord hword
        rw [hgap c List.mem_cons_self] at hblank
        cases hblank
  induction h generalizing before with
  | nil => simp at htext
  | @token kind chars rest tokens position chunk others ih =>
      have hlater : ∀ before, rest = before ++ (name ++ (gap ++ '(' :: inside)) →
          ∃ first token opening last,
            ⟨kind, String.ofList chars, position⟩ :: tokens = first ++ token :: opening :: last ∧
            token.kind = .name ∧ (∃ start, token.text.toList = start ++ name) ∧
            opening.Is .symbol "(" ∧ Scanned inside last := by
        intro before hrest
        obtain ⟨first, token, opening, last, htokens, htoken⟩ := ih before hrest
        exact ⟨_ :: first, token, opening, last, by rw [htokens, List.cons_append], htoken⟩
      rcases List.append_eq_append_iff.1 htext with ⟨later, hbefore, hrest⟩ | ⟨later, hchars, hrest⟩
      · exact hlater later hrest
      · by_cases hnil : later = []
        · refine hlater [] ?_
          rw [hnil] at hrest
          exact hrest.symm
        · subst hchars
          obtain ⟨rfl, rfl, rfl⟩ := chunk.ends hnil hne hname hbehind hrest.symm
          obtain ⟨opening, last, rfl, hopening, hlast⟩ := others.opening hgap
          exact ⟨[], _, opening, last, rfl, rfl, ⟨before, String.toList_ofList⟩, hopening, hlast⟩
  | @blank c rest tokens hblank others ih =>
      cases before with
      | nil =>
          obtain ⟨d, letters, rfl⟩ := List.exists_cons_of_ne_nil hne
          obtain ⟨rfl, -⟩ := List.cons.inj htext
          rw [hletter c List.mem_cons_self] at hblank
          cases hblank
      | cons d before =>
          obtain ⟨rfl, hrest⟩ := List.cons.inj htext
          exact ih before hrest

end DeskCalculator.Token
