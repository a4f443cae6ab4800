import DeskCalculator.Proofs.Entry.Passes

/-!
# The chunks of a scanned text

A text that scans is a sequence of blanks and of chunks, one for each token.
`Scanned` is that view of a scan, and `Chunk` says what the characters of a
chunk can be: which ones, and where a name has to end.
-/

namespace DeskCalculator.Token

open Text Entry

/-! ## Numerals -/

/-- The characters of a numeral. -/
def isNumeral (c : Char) : Bool :=
  isDigit c || c ∈ ['.', 'e', 'E', '+', '-']

theorem mem_take_mantissaLength {text : List Char} {c : Char}
    (hc : c ∈ text.take (mantissaLength text)) : isDigit c = true ∨ c = '.' := by
  unfold mantissaLength at hc
  simp only at hc
  split at hc
  · next rest hrest =>
      split at hc
      · simp at hc
      · exact mem_take_point hrest hc
  · exact .inl (isDigit_of_mem_take_digitRun hc)

private theorem isNumeral_of_mem_take_mantissaLength {text : List Char} {c : Char}
    (hc : c ∈ text.take (mantissaLength text)) : isNumeral c = true := by
  rcases mem_take_mantissaLength hc with hdigit | rfl
  · simp [isNumeral, hdigit]
  · decide

/-- A sign is split off or not. -/
theorem splitSign_eq_append (text : List Char) : ∃ sign, text = sign ++ (splitSign text).2 ∧
    (sign = [] ∨ sign = ['+'] ∨ sign = ['-']) := by
  unfold splitSign
  split
  · exact ⟨['-'], rfl, .inr (.inr rfl)⟩
  · exact ⟨['+'], rfl, .inr (.inl rfl)⟩
  · exact ⟨[], rfl, .inl rfl⟩

/-- An exponent has a mark, perhaps a sign, and digits. -/
theorem exponentLength_cases (text : List Char) : exponentLength text = 0 ∨
    ∃ mark sign run rest, text = mark :: (sign ++ run) ++ rest ∧
      exponentLength text = (mark :: (sign ++ run)).length ∧ (mark = 'e' ∨ mark = 'E') ∧
      (sign = [] ∨ sign = ['+'] ∨ sign = ['-']) ∧ run ≠ [] ∧ ∀ c ∈ run, isDigit c = true := by
  cases text with
  | nil => exact .inl rfl
  | cons mark rest =>
      rw [exponentLength]
      split
      · next hmark =>
          simp only
          split
          · exact .inl rfl
          · next hrun =>
              obtain ⟨sign, hrest, hsign⟩ := splitSign_eq_append rest
              generalize (splitSign rest).2 = digits at hrun hrest ⊢
              subst hrest
              refine .inr ⟨mark, sign, digits.takeWhile isDigit, digits.dropWhile isDigit, ?_, ?_,
                hmark, hsign, ?_, fun c hc => List.mem_takeWhile_imp hc⟩
              · simp [List.takeWhile_append_dropWhile]
              · simp only [digitRun, List.length_append, List.length_cons]
                omega
              · rintro hnil
                exact hrun (by rw [digitRun, hnil, List.length_nil])
      · exact .inl rfl

private theorem isNumeral_of_mem_take_exponentLength {text : List Char} {c : Char}
    (hc : c ∈ text.take (exponentLength text)) : isNumeral c = true := by
  rcases exponentLength_cases text with
    hnone | ⟨mark, sign, run, rest, htext, hlength, hmark, hsign, -, hrun⟩
  · rw [hnone] at hc
    cases hc
  · rw [hlength, htext, List.take_left, List.mem_cons, List.mem_append] at hc
    rcases hc with rfl | hc | hc
    · rcases hmark with rfl | rfl <;> decide
    · rcases hsign with rfl | rfl | rfl
      · cases hc
      · rw [List.mem_singleton.1 hc]
        decide
      · rw [List.mem_singleton.1 hc]
        decide
    · simp [isNumeral, hrun c hc]

private theorem isNumeral_of_mem_take_numeralLength {text : List Char} {c : Char}
    (hc : c ∈ text.take (numeralLength text)) : isNumeral c = true := by
  unfold numeralLength at hc
  simp only at hc
  split at hc
  · simp at hc
  · rw [List.take_add] at hc
    rcases List.mem_append.1 hc with hc | hc
    · exact isNumeral_of_mem_take_mantissaLength hc
    · exact isNumeral_of_mem_take_exponentLength hc

/-- A numeral ends in a digit or a point. -/
theorem getLast?_take_numeralLength {text : List Char} {c : Char}
    (hc : c ∈ (text.take (numeralLength text)).getLast?) : isDigit c = true ∨ c = '.' := by
  unfold numeralLength at hc
  simp only at hc
  split at hc
  · cases hc
  rw [List.take_add] at hc
  rcases exponentLength_cases (text.drop (mantissaLength text)) with
    hnone | ⟨mark, sign, run, rest, htext, hlength, -, -, hne, hrun⟩
  · rw [hnone, List.take_zero, List.append_nil] at hc
    exact mem_take_mantissaLength (List.mem_of_getLast? hc)
  · rw [hlength, htext, List.take_left, ← List.cons_append, ← List.append_assoc,
      List.getLast?_append_of_ne_nil _ hne] at hc
    exact .inl (hrun c (List.mem_of_getLast? hc))

theorem not_isBlank_of_isNumeral {c : Char} (h : isNumeral c = true) : isBlank c = false := by
  simp only [isNumeral, Bool.or_eq_true, decide_eq_true_eq, List.mem_cons, List.not_mem_nil,
    or_false] at h
  rcases h with h | rfl | rfl | rfl | rfl | rfl
  · exact not_isBlank_of_isDigit h
  · decide
  · decide
  · decide
  · decide
  · decide

/-! ## Chunks -/

/-- What the characters of a token of this kind can be, with the rest of the text behind them. -/
inductive Chunk : TokenKind → List Char → List Char → Prop
  | number {chars rest : List Char} (mem : ∀ c ∈ chars, isNumeral c = true) (ne : chars ≠ []) :
      Chunk .number chars rest
  | name {chars rest : List Char} (mem : ∀ c ∈ chars, isWord c = true) (ne : chars ≠ [])
      (stop : ∀ c ∈ rest.head?, isWord c = false) : Chunk .name chars rest
  | power {rest : List Char} : Chunk .power ['*', '*'] rest
  | symbol {c : Char} {rest : List Char} (mem : c ∈ symbols) : Chunk .symbol [c] rest

private theorem chunk_of_name {c : Char} {rest : List Char} (hlength : nameLength (c :: rest) ≠ 0) :
    Chunk .name ((c :: rest).take (nameLength (c :: rest)))
      ((c :: rest).drop (nameLength (c :: rest))) := by
  have hhead : isLetter c = true ∨ c = '_' := by
    by_contra hhead
    rw [nameLength, if_neg hhead] at hlength
    exact hlength rfl
  have hword : isWord c = true := by
    rcases hhead with hletter | rfl
    · exact isWord_of_isAlpha hletter
    · decide
  rw [nameLength, if_pos hhead, Nat.add_comm, List.take_succ_cons, List.drop_succ_cons,
    take_length_takeWhile, drop_length_takeWhile]
  refine .name (List.forall_mem_cons.2 ⟨hword, fun d hd => List.mem_takeWhile_imp hd⟩)
    (List.cons_ne_nil _ _) fun d hd => ?_
  have hstop := List.head?_dropWhile_not isWord rest
  rw [Option.mem_def.1 hd] at hstop
  exact hstop

theorem chunk_of_leading? {c : Char} {rest : List Char} {kind : TokenKind} {length : Nat}
    (h : leading? (c :: rest) = some (kind, length)) :
    Chunk kind ((c :: rest).take length) ((c :: rest).drop length) := by
  unfold leading? at h
  split at h
  · next hlength =>
      cases h
      refine .number (fun d => isNumeral_of_mem_take_numeralLength) ?_
      simp [hlength]
  split at h
  · next hlength =>
      cases h
      exact chunk_of_name hlength
  split at h
  · next rest heq =>
      cases h
      cases heq
      exact .power
  · next d rest _ heq =>
      split at h
      · next hsymbol =>
          cases h
          cases heq
          exact .symbol hsymbol
      · cases h
  · cases h

theorem Chunk.ne_nil {kind : TokenKind} {chars rest : List Char} (h : Chunk kind chars rest) :
    chars ≠ [] := by
  cases h with
  | number mem ne => exact ne
  | name mem ne stop => exact ne
  | power => simp
  | symbol mem => simp

/-- A scan goes on behind the characters of the token that it has found. -/
theorem drop_of_leading? {c : Char} {rest : List Char} {kind : TokenKind} {length : Nat}
    (h : leading? (c :: rest) = some (kind, length)) :
    rest.drop (length - 1) = (c :: rest).drop length := by
  cases length with
  | zero => exact absurd rfl (chunk_of_leading? h).ne_nil
  | succ shorter => rfl

theorem Chunk.not_isBlank {kind : TokenKind} {chars rest : List Char} (h : Chunk kind chars rest) :
    ∀ c ∈ chars, isBlank c = false := by
  intro c hc
  cases h with
  | number mem ne => exact not_isBlank_of_isNumeral (mem c hc)
  | name mem ne stop => exact not_isBlank_of_isWord (mem c hc)
  | power =>
      have hstar : c = '*' := by simpa using hc
      rw [hstar]
      decide
  | symbol mem =>
      rw [List.mem_singleton.1 hc]
      have hall : symbols.all (fun c => !isBlank c) = true := by decide
      simpa using List.all_eq_true.1 hall _ mem

/-! ## Scanned texts -/

/-- How a text is cut into blanks and into the chunks of these tokens. -/
inductive Scanned : List Char → List Token → Prop
  | nil : Scanned [] []
  | token {kind : TokenKind} {chars rest : List Char} {tokens : List Token} (position : Nat)
      (chunk : Chunk kind chars rest) (others : Scanned rest tokens) :
      Scanned (chars ++ rest) (⟨kind, String.ofList chars, position⟩ :: tokens)
  | blank {c : Char} {rest : List Char} {tokens : List Token} (hblank : isBlank c = true)
      (others : Scanned rest tokens) : Scanned (c :: rest) tokens

theorem scanned_of_scan {text : List Char} :
    ∀ {position : Nat} {tokens : List Token}, scan position text = .ok tokens →
      Scanned text tokens := by
  intro position
  fun_induction scan position text with
  | case1 position =>
      intro tokens h
      cases h
      exact .nil
  | case2 position c rest kind length hleading ih =>
      intro tokens h
      cases hothers : scan (position + length) (rest.drop (length - 1)) with
      | error fault =>
          rw [hothers] at h
          cases h
      | ok others =>
          have hscanned := ih hothers
          rw [hothers] at h
          cases h
          rw [drop_of_leading? hleading] at hscanned
          have hwhole := Scanned.token position (chunk_of_leading? hleading) hscanned
          rwa [List.take_append_drop] at hwhole
  | case3 position c rest hleading hblank ih =>
      intro tokens h
      exact .blank hblank (ih h)
  | case4 position c rest hleading hblank =>
      intro tokens h
      cases h

end DeskCalculator.Token
