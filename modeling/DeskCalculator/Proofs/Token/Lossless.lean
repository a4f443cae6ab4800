import DeskCalculator.Proofs.Token.Lexeme

/-!
# Tokens lose nothing but blanks

A scan goes through a text from its start.  At each position that it reaches it takes the
longest lexeme there, or passes over a blank, or stops for good (`Reaches`, `Stuck`).  So
its tokens are slices of the text, in order and apart, with nothing but blanks outside
them (`Lossless`), and written with single blanks between them they are found again
(`scan_spaced`).

## Strategy

Whatever a scan has reached, the scan of the whole text goes on from there
(`Reaches.scan_eq`), and it always ends, behind the text or at a character where it is
stuck (`Reaches.halts`).  What the tokens show is an invariant of the steps
(`Reaches.lossless`).
-/

namespace DeskCalculator.Token

open Text

/-! ## The steps of a scan -/

/-- How far a scan of a text comes: which tokens it has found, and which position it has reached. -/
inductive Reaches (text : List Char) : List Token → Nat → Prop
  | start : Reaches text [] 0
  | token {tokens : List Token} {position : Nat} {kind : TokenKind} {chars rest : List Char}
      (earlier : Reaches text tokens position) (here : text.drop position = chars ++ rest)
      (longest : Longest kind chars rest) :
      Reaches text (tokens ++ [⟨kind, String.ofList chars, position⟩]) (position + chars.length)
  | blank {tokens : List Token} {position : Nat} {c : Char} {rest : List Char}
      (earlier : Reaches text tokens position) (here : text.drop position = c :: rest)
      (hblank : isBlank c = true) : Reaches text tokens (position + 1)

/-- Whether a scan of a text reaches a character that is no blank and starts no token. -/
def Stuck (text : List Char) (c : Char) (position : Nat) : Prop :=
  ∃ tokens rest, Reaches text tokens position ∧ text.drop position = c :: rest ∧
    isBlank c = false ∧ ¬ StartsLexeme (c :: rest)

private theorem not_startsLexeme_of_isBlank {c : Char} {rest : List Char}
    (hblank : isBlank c = true) :
    ¬ StartsLexeme (c :: rest) := by
  rintro ⟨kind, chars, hlexeme, hstart⟩
  cases chars with
  | nil => exact hlexeme.chunk.ne_nil rfl
  | cons d others =>
      obtain ⟨rfl, -⟩ := List.cons_prefix_cons.1 hstart
      rw [hlexeme.chunk.not_isBlank d List.mem_cons_self] at hblank
      cases hblank

theorem scan_longest {kind : TokenKind} {chars rest : List Char} (h : Longest kind chars rest)
    (position : Nat) : scan position (chars ++ rest) =
      (scan (position + chars.length) rest).map (⟨kind, String.ofList chars, position⟩ :: ·) :=
  Surface.scan_of_leading? h.lexeme.chunk.ne_nil (leading?_eq_some_iff.2 h)

theorem scan_skip {c : Char} {rest : List Char} (hblank : isBlank c = true) (position : Nat) :
    scan position (c :: rest) = scan (position + 1) rest :=
  Surface.scan_blank hblank (leading?_eq_none_iff.2 (not_startsLexeme_of_isBlank hblank))

private theorem scan_stuck {c : Char} {rest : List Char} (hblank : isBlank c = false)
    (hnone : ¬ StartsLexeme (c :: rest)) (position : Nat) :
    scan position (c :: rest) = .error (.unexpectedCharacter c position) := by
  rw [scan, leading?_eq_none_iff.2 hnone]
  simp [hblank]

/-! ## Where a scan comes to -/

variable {text chars rest : List Char} {tokens : List Token} {position : Nat}

private theorem drop_of_split (here : text.drop position = chars ++ rest) :
    text.drop (position + chars.length) = rest := by
  rw [← List.drop_drop, here, List.drop_left]

theorem le_of_split (here : text.drop position = chars ++ rest) (hne : chars ≠ []) :
    position + chars.length ≤ text.length := by
  have hlength := congrArg List.length here
  have hpos := List.length_pos_of_ne_nil hne
  rw [List.length_drop, List.length_append] at hlength
  omega

theorem lt_of_head {c : Char} (here : text.drop position = c :: rest) : position < text.length :=
  @le_of_split text [c] rest position here (List.cons_ne_nil c [])

theorem Reaches.position_le (h : Reaches text tokens position) : position ≤ text.length := by
  cases h with
  | start => exact Nat.zero_le _
  | token earlier here longest => exact le_of_split here longest.lexeme.chunk.ne_nil
  | blank earlier here hblank => exact lt_of_head here

/-- The scan of the whole text goes on from what it has reached. -/
theorem Reaches.scan_eq (h : Reaches text tokens position) :
    scan 0 text = (scan position (text.drop position)).map (tokens ++ ·) := by
  induction h with
  | start =>
      rw [List.drop_zero]
      cases scan 0 text with
      | ok others => rfl
      | error fault => rfl
  | @token tokens position kind chars rest earlier here longest ih =>
      rw [ih, drop_of_split here, here, scan_longest longest]
      cases scan (position + chars.length) rest with
      | ok others => simp [Except.map]
      | error fault => rfl
  | @blank tokens position c rest earlier here hblank ih =>
      have hrest : text.drop (position + 1) = rest := @drop_of_split text [c] rest position here
      rw [ih, hrest, here, scan_skip hblank]

/-- A scan goes on to the end of the text, or to a character where it is stuck. -/
theorem Reaches.halts {text : List Char} {tokens : List Token} {position : Nat}
    (h : Reaches text tokens position) :
    (∃ all, Reaches text all text.length) ∨ ∃ c place, Stuck text c place := by
  cases hrest : text.drop position with
  | nil =>
      have hend : position = text.length :=
        Nat.le_antisymm h.position_le (List.drop_eq_nil_iff.1 hrest)
      exact .inl ⟨tokens, hend ▸ h⟩
  | cons c rest =>
      by_cases hstarts : StartsLexeme (c :: rest)
      · cases hleading : leading? (c :: rest) with
        | none => exact absurd hstarts (leading?_eq_none_iff.1 hleading)
        | some taken =>
            obtain ⟨kind, length⟩ := taken
            obtain ⟨chars, behind, hsplit, rfl, hlexeme⟩ := exists_lexeme_of_leading? hleading
            rw [hsplit] at hleading hrest
            have hpos := List.length_pos_of_ne_nil hlexeme.chunk.ne_nil
            have hle := le_of_split hrest hlexeme.chunk.ne_nil
            have hless : text.length - (position + chars.length) < text.length - position := by
              omega
            exact (h.token hrest (leading?_eq_some_iff.1 hleading)).halts
      · cases hblank : isBlank c with
        | true =>
            have hlt := lt_of_head hrest
            have hless : text.length - (position + 1) < text.length - position := by omega
            exact (h.blank hrest hblank).halts
        | false => exact .inr ⟨c, position, tokens, rest, h, hrest, hblank, hstarts⟩
termination_by text.length - position

theorem scan_halts (text : List Char) :
    (∃ all, Reaches text all text.length) ∨ ∃ c place, Stuck text c place :=
  Reaches.start.halts

/-! ## What the tokens show -/

/-- Whether tokens show everything in a text in front of `stop` but its blanks. -/
structure Lossless (text : List Char) (tokens : List Token) (stop : Nat) : Prop where
  nonempty : ∀ token ∈ tokens, 0 < token.text.length
  slice : ∀ token ∈ tokens,
    token.text.toList = (text.drop token.position).take token.text.length
  before : ∀ token ∈ tokens, token.position + token.text.length ≤ stop
  apart : tokens.Pairwise fun first second =>
    first.position < second.position ∧ first.position + first.text.length ≤ second.position
  blank : ∀ i < stop, ∀ c, text[i]? = some c →
    (∀ token ∈ tokens, i < token.position ∨ token.position + token.text.length ≤ i) →
    isBlank c = true

/-- One more token. -/
theorem Lossless.token (h : Lossless text tokens position) (kind : TokenKind)
    (here : text.drop position = chars ++ rest) (hne : chars ≠ []) :
    Lossless text (tokens ++ [⟨kind, String.ofList chars, position⟩])
      (position + chars.length) := by
  have hlength : (String.ofList chars).length = chars.length := String.length_ofList
  have hpos := List.length_pos_of_ne_nil hne
  refine ⟨?_, ?_, ?_, ?_, ?_⟩
  · exact List.forall_mem_append.2 ⟨h.nonempty, by simpa [hlength] using hpos⟩
  · refine List.forall_mem_append.2 ⟨h.slice, List.forall_mem_singleton.2 ?_⟩
    simp only [String.toList_ofList, hlength, here, List.take_left]
  · refine List.forall_mem_append.2 ⟨fun token htoken => ?_, List.forall_mem_singleton.2 ?_⟩
    · exact (h.before token htoken).trans (Nat.le_add_right _ _)
    · exact Nat.le_of_eq (by rw [hlength])
  · refine List.pairwise_append.2 ⟨h.apart, List.pairwise_singleton _ _, ?_⟩
    intro first hfirst second hsecond
    have hbefore := h.before first hfirst
    have hnonempty := h.nonempty first hfirst
    rw [List.mem_singleton.1 hsecond]
    exact ⟨show first.position < position by omega, hbefore⟩
  · intro i hi d hd houtside
    by_cases hearlier : i < position
    · exact h.blank i hearlier d hd fun token htoken =>
        houtside token (List.mem_append_left _ htoken)
    · have hhere := houtside _ (List.mem_append_right tokens List.mem_cons_self)
      simp only [hlength] at hhere
      omega

/-- One more blank. -/
theorem Lossless.skip {c : Char} (h : Lossless text tokens position)
    (here : text.drop position = c :: rest) (hblank : isBlank c = true) : Lossless text tokens (position + 1) where
  nonempty := h.nonempty
  slice := h.slice
  before token htoken := (h.before token htoken).trans (Nat.le_succ _)
  apart := h.apart
  blank i hi d hd houtside := by
    by_cases hearlier : i < position
    · exact h.blank i hearlier d hd houtside
    · obtain rfl : i = position := by omega
      have hfound : text[i]? = some c := by
        rw [← Nat.add_zero i, ← List.getElem?_drop, here, List.getElem?_cons_zero]
      rw [hfound] at hd
      cases hd
      exact hblank

theorem Reaches.lossless (h : Reaches text tokens position) : Lossless text tokens position := by
  induction h with
  | start => exact ⟨nofun, nofun, nofun, .nil, nofun⟩
  | token earlier here longest ih => exact ih.token _ here longest.lexeme.chunk.ne_nil
  | blank earlier here hblank ih => exact ih.skip here hblank

theorem Reaches.lexeme (h : Reaches text tokens position) :
    ∀ token ∈ tokens, Lexeme token.kind token.text.toList := by
  induction h with
  | start => exact nofun
  | token earlier here longest ih =>
      intro token htoken
      rcases List.mem_append.1 htoken with htoken | htoken
      · exact ih token htoken
      · rw [List.mem_singleton.1 htoken, String.toList_ofList]
        exact longest.lexeme
  | blank earlier here hblank ih => exact ih

/-! ## The outcome of a scan -/

theorem Reaches.ofText_eq {text : String} (h : Reaches text.toList tokens text.toList.length) :
    ofText text = .ok tokens := by
  rw [ofText, h.scan_eq, List.drop_length, scan]
  simp [Except.map]

theorem Stuck.ofText_eq {text : String} {c : Char} (h : Stuck text.toList c position) :
    ofText text = .error (.unexpectedCharacter c position) := by
  obtain ⟨tokens, rest, hreaches, hrest, hblank, hnone⟩ := h
  rw [ofText, hreaches.scan_eq, hrest, scan_stuck hblank hnone]
  rfl

/-- A text has tokens exactly if a scan comes to its end. -/
theorem ofText_eq_ok_iff {text : String} :
    ofText text = .ok tokens ↔ Reaches text.toList tokens text.toList.length := by
  constructor
  · intro h
    rcases scan_halts text.toList with ⟨all, hall⟩ | ⟨c, place, hstuck⟩
    · rw [hall.ofText_eq] at h
      cases h
      exact hall
    · rw [hstuck.ofText_eq] at h
      cases h
  · exact Reaches.ofText_eq

/-- A text has no tokens exactly if a scan gets stuck, and the fault tells where. -/
theorem ofText_eq_error_iff {text : String} {fault : Fault} :
    ofText text = .error fault ↔
      ∃ c place, Stuck text.toList c place ∧ fault = .unexpectedCharacter c place := by
  constructor
  · intro h
    rcases scan_halts text.toList with ⟨all, hall⟩ | ⟨c, place, hstuck⟩
    · rw [hall.ofText_eq] at h
      cases h
    · rw [hstuck.ofText_eq] at h
      cases h
      exact ⟨c, place, hstuck, rfl⟩
  · rintro ⟨c, place, hstuck, rfl⟩
    exact hstuck.ofText_eq

/-! ## Tokens written down again -/

/-- What a token is, wherever it stands. -/
def face (token : Token) : TokenKind × String := (token.kind, token.text)

/-- Lexemes with single blanks between them are found again. -/
theorem scan_spaced (hlexeme : ∀ token ∈ tokens, Lexeme token.kind token.text.toList)
    (position : Nat) :
    ∃ again, scan position (" ".intercalate (tokens.map Token.text)).toList = .ok again ∧
      again.map face = tokens.map face := by
  induction tokens generalizing position with
  | nil =>
      refine ⟨[], ?_, rfl⟩
      rw [List.map_nil, String.intercalate_nil, String.toList_empty, scan]
  | cons first others ih =>
      have hfirst := hlexeme first List.mem_cons_self
      have hothers : ∀ token ∈ others, Lexeme token.kind token.text.toList := fun token htoken =>
        hlexeme token (List.mem_cons_of_mem _ htoken)
      cases others with
      | nil =>
          have hlongest : Longest first.kind first.text.toList [] :=
            hfirst.longest_of_blank fun c hc => by cases hc
          have hlast := scan_longest hlongest position
          refine ⟨[⟨first.kind, first.text, position⟩], ?_, rfl⟩
          rw [List.append_nil, scan, String.ofList_toList] at hlast
          rw [List.map_singleton, String.intercalate_singleton, hlast]
          rfl
      | cons second more =>
          obtain ⟨again, hagain, hfaces⟩ := ih hothers (position + first.text.toList.length + 1)
          have hlongest : Longest first.kind first.text.toList
              (' ' :: (" ".intercalate ((second :: more).map Token.text)).toList) := by
            refine hfirst.longest_of_blank ?_
            rintro c ⟨⟩
            decide
          have hnext := scan_longest hlongest position
          refine ⟨⟨first.kind, first.text, position⟩ :: again, ?_, ?_⟩
          · rw [scan_skip (by decide), hagain, String.ofList_toList] at hnext
            rw [List.map_cons, List.map_cons, String.intercalate_cons_cons, String.toList_append,
              String.toList_append, List.append_assoc]
            exact hnext
          · rw [List.map_cons, hfaces, List.map_cons]
            rfl

/-- The tokens of a text show everything in it but blanks, and with single blanks between them they
are found again.  A text has no tokens exactly if a scan of it comes to a character that is no blank
and starts no token. -/
theorem ofText_lossless (text : String) :
    (∀ tokens, ofText text = .ok tokens →
      Lossless text.toList tokens text.toList.length ∧
      ∃ again, ofText (" ".intercalate (tokens.map Token.text)) = .ok again ∧
        again.map face = tokens.map face) ∧
    ∀ fault, ofText text = .error fault ↔
      ∃ c place, Stuck text.toList c place ∧ fault = .unexpectedCharacter c place ∧
        fault.kind = .syntaxError := by
  constructor
  · intro tokens h
    have hreaches := ofText_eq_ok_iff.1 h
    exact ⟨hreaches.lossless, scan_spaced hreaches.lexeme 0⟩
  · intro fault
    rw [ofText_eq_error_iff]
    constructor
    · rintro ⟨c, place, hstuck, rfl⟩
      exact ⟨c, place, hstuck, rfl, rfl⟩
    · rintro ⟨c, place, hstuck, hfault, -⟩
      exact ⟨c, place, hstuck, hfault⟩

/-- A second point starts a numeral of its own, and a question mark stops the scan. -/
theorem ofText_lossless_points :
    (∃ tokens again, ofText "1.2.3 e" = .ok tokens ∧ Lossless "1.2.3 e".toList tokens 7 ∧
      ofText (" ".intercalate (tokens.map Token.text)) = .ok again ∧
      again.map face = [(.number, "1.2"), (.number, ".3"), (.name, "e")]) ∧
    ∃ c place, Stuck "2?".toList c place ∧
      Fault.unexpectedCharacter '?' 1 = .unexpectedCharacter c place := by
  have htokens : ofText "1.2.3 e" =
      .ok [⟨.number, "1.2", 0⟩, ⟨.number, ".3", 3⟩, ⟨.name, "e", 6⟩] := by cbv
  have hfault : ofText "2?" = .error (.unexpectedCharacter '?' 1) := by cbv
  obtain ⟨hlossless, again, hagain, hfaces⟩ := (ofText_lossless "1.2.3 e").1 _ htokens
  obtain ⟨c, place, hstuck, hplace, -⟩ := ((ofText_lossless "2?").2 _).1 hfault
  exact ⟨⟨_, again, htokens, hlossless, hagain, hfaces⟩, c, place, hstuck, hplace⟩

end DeskCalculator.Token
