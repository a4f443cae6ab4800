import DeskCalculator.Proofs.Entry.Passes
import DeskCalculator.Proofs.Surface.Word

/-!
# Where words meet

Two words of a text must not run together: an operand never stands directly
before another one, and a star never directly before another star.  Then a
literal is found as a whole wherever a plain number is looked for
(`plain?_literal`), since what follows it is clear, that is, no character that
could go on with an operand.
-/

namespace DeskCalculator.Surface

open Text Entry

/-! ## Rows of words -/

/-- What words have to be kept apart from. -/
inductive Kind where
  | operand
  | star
  | other
  deriving DecidableEq

/-- The kind of a word. -/
def Word.kind : Word → Kind
  | literal _ | percentage _ | factorial _ | circle | euler | name _ => .operand
  | mark .star | mark .caret | mark .power => .star
  | mark _ | spaced _ => .other

/-- Whether a word may stand directly before another one. -/
def Word.MayPrecede (v w : Word) : Prop := v.kind = w.kind → v.kind = .other

/-- Whether no two words of a row run together. -/
def Apart (words : List Word) : Prop := words.IsChain Word.MayPrecede

/-- Whether a word is a mark between blanks. -/
def Word.IsSpaced (w : Word) : Prop := ∃ m, w = .spaced m

theorem Apart.tail {w : Word} {words : List Word} (h : Apart (w :: words)) : Apart words :=
  List.IsChain.tail h

theorem apart_cons {w : Word} {words : List Word} :
    Apart (w :: words) ↔ (∀ v ∈ words.head?, w.MayPrecede v) ∧ Apart words := by
  cases words with
  | nil => simp [Apart]
  | cons v rest => simp [Apart, List.isChain_cons_cons]

theorem apart_append {first second : List Word} :
    Apart (first ++ second) ↔ Apart first ∧ Apart second ∧
      ∀ v ∈ first.getLast?, ∀ w ∈ second.head?, v.MayPrecede w :=
  List.isChain_append

@[simp] theorem text_nil : text [] = [] := rfl

@[simp] theorem text_cons (w : Word) (words : List Word) : text (w :: words) = w.chars ++ text words :=
  rfl

@[simp] theorem text_append (first second : List Word) :
    text (first ++ second) = text first ++ text second :=
  List.flatMap_append

/-! ## Clear characters -/

/-- Whether a character can neither continue an operand nor end one. -/
def isClear (c : Char) : Bool :=
  !isWord c && !isDigit c && c ∉ ['.', '%', '!', 'π', 'e']

theorem Word.chars_ne_nil (w : Word) : w.chars ≠ [] := by
  cases w with
  | literal n => simp [Word.chars, Literal.chars, n.whole_ne_nil]
  | name n => exact n.letters_ne_nil
  | mark m =>
      cases m <;> simp [Word.chars, Mark.chars]
  | _ => simp [Word.chars]

theorem Mark.mem_of_mem_chars {m : Mark} {c : Char} (hc : c ∈ m.chars) :
    c ∈ ['+', '-', '*', '/', '^', '(', ')', ','] := by
  cases m with
  | sign s => cases s <;> simp_all [Mark.chars, Sign.char]
  | _ => simp_all [Mark.chars]

theorem Mark.isClear_of_mem {m : Mark} {c : Char} (hc : c ∈ m.chars) : isClear c = true := by
  have hchars : ['+', '-', '*', '/', '^', '(', ')', ','].all isClear = true := by decide
  exact List.all_eq_true.1 hchars c (Mark.mem_of_mem_chars hc)

/-- A word that is no operand is made of clear characters. -/
theorem Word.isClear_of_mem {w : Word} (hkind : w.kind ≠ .operand) {c : Char} (hc : c ∈ w.chars) :
    isClear c = true := by
  have hblank : isClear ' ' = true := by decide
  cases w with
  | mark m => exact Mark.isClear_of_mem hc
  | spaced m =>
      rcases List.mem_cons.1 hc with rfl | hc
      · exact hblank
      · rcases List.mem_append.1 hc with hc | hc
        · exact Mark.isClear_of_mem hc
        · rw [List.mem_singleton.1 hc]
          exact hblank
  | _ => exact absurd rfl hkind

/-- Whether a text is empty or starts with a clear character. -/
def Clear (rest : List Char) : Prop := ∀ c ∈ rest.head?, isClear c = true

private theorem clear_text {words : List Word} (h : ∀ w ∈ words.head?, w.kind ≠ .operand) :
    Clear (text words) := by
  cases words with
  | nil => intro c hc; cases hc
  | cons w rest =>
      intro c hc
      refine Word.isClear_of_mem (h w rfl) ?_
      rw [text_cons, List.head?_append_of_ne_nil _ w.chars_ne_nil] at hc
      exact List.mem_of_head? hc

/-- What follows an operand is clear. -/
theorem clear_of_apart {w : Word} {words : List Word} (happart : Apart (w :: words))
    (hkind : w.kind = .operand) : Clear (text words) := by
  refine clear_text fun v hv hoperand => ?_
  have := (apart_cons.1 happart).1 v hv (hkind.trans hoperand.symm)
  rw [hkind] at this
  cases this

/-! ## Plain numbers -/

/-- Whether a text starts with neither a digit nor a point. -/
def Stops (rest : List Char) : Prop := ∀ c ∈ rest.head?, isDigit c = false ∧ c ≠ '.'

theorem Clear.stops {rest : List Char} (h : Clear rest) : Stops rest := by
  intro c hc
  have := h c hc
  simp_all [isClear]

theorem stops_percent {rest : List Char} : Stops ('%' :: rest) := by
  intro c hc
  cases hc
  exact ⟨by decide, by decide⟩

theorem stops_exclamation {rest : List Char} : Stops ('!' :: rest) := by
  intro c hc
  cases hc
  exact ⟨by decide, by decide⟩

theorem digitRun_append {digits rest : List Char} (hdigits : ∀ c ∈ digits, isDigit c = true)
    (hrest : ∀ c ∈ rest.head?, isDigit c = false) : digitRun (digits ++ rest) = digits.length := by
  rw [digitRun, takeWhile_append_of_stop hdigits hrest]

theorem Literal.isDigit_of_mem_whole {n : Literal} {c : Char} (hc : c ∈ n.whole) :
    isDigit c = true :=
  isDigit_of_core (n.isDigit_whole c hc)

theorem Literal.isDigit_of_mem_fraction {n : Literal} {c : Char} (hc : c ∈ n.fraction) :
    isDigit c = true :=
  isDigit_of_core (n.isDigit_fraction c hc)

theorem Literal.digitRun_whole (n : Literal) {rest : List Char} (hrest : Stops rest) :
    digitRun (n.chars ++ rest) = n.whole.length := by
  rw [Literal.chars, List.append_assoc]
  refine digitRun_append (fun c => n.isDigit_of_mem_whole) fun c hc => ?_
  split_ifs at hc
  · exact (hrest c hc).1
  · cases hc
    decide

theorem Literal.digitRun_fraction (n : Literal) {rest : List Char} (hrest : Stops rest) :
    digitRun (n.fraction ++ rest) = n.fraction.length :=
  digitRun_append (fun _ => n.isDigit_of_mem_fraction) fun c hc => (hrest c hc).1

/-- What stands behind the whole part of a literal. -/
theorem Literal.drop_whole (n : Literal) (rest : List Char) :
    (n.chars ++ rest).drop n.whole.length =
      if n.fraction = [] then rest else '.' :: (n.fraction ++ rest) := by
  rw [Literal.chars, List.append_assoc, List.drop_left]
  split_ifs <;> rfl

theorem Literal.length_chars (n : Literal) : n.chars.length =
    if n.fraction = [] then n.whole.length else n.whole.length + 1 + n.fraction.length := by
  rw [Literal.chars, List.length_append]
  split_ifs
  · rfl
  · rw [List.length_cons]
    omega

/-- A literal is found as a whole. -/
theorem plain?_literal (n : Literal) {rest : List Char} (hrest : Stops rest) :
    plain? (n.chars ++ rest) = some (n.chars, rest) := by
  have hwhole : n.whole.length ≠ 0 := by simpa using n.whole_ne_nil
  have hlength : plainLength (n.chars ++ rest) = n.chars.length := by
    simp only [plainLength, n.digitRun_whole hrest, n.drop_whole, n.length_chars, if_neg hwhole]
    by_cases hfraction : n.fraction = []
    · simp only [if_pos hfraction]
      split
      · exact absurd rfl (hrest '.' rfl).2
      · rfl
    · simp only [if_neg hfraction, n.digitRun_fraction hrest]
      rw [if_neg (by simpa using hfraction)]
  have hpos : n.chars.length ≠ 0 := by
    simp [Literal.chars, n.whole_ne_nil]
  simp [plain?, hlength, hpos]

/-- Behind the start of a literal stand its point or another literal. -/
theorem Literal.split (n : Literal) {before after : List Char} {c : Char}
    (h : n.chars = before ++ c :: after) : c = '.' ∨ ∃ m : Literal, m.chars = c :: after := by
  unfold Literal.chars at h
  rcases List.append_eq_append_iff.1 h with ⟨skipped, hbefore, hfraction⟩ | ⟨left, hwhole, hleft⟩
  · -- the split lies behind the whole part
    split at hfraction
    · cases skipped <;> cases hfraction
    · cases skipped with
      | nil => exact .inl (List.cons.inj hfraction).1.symm
      | cons point others =>
          have hdigits : n.fraction = others ++ c :: after := (List.cons.inj hfraction).2
          have hmem : ∀ d ∈ c :: after, d.isDigit = true := fun d hd =>
            n.isDigit_fraction d (hdigits ▸ List.mem_append_right _ hd)
          exact .inr ⟨⟨c :: after, [], by simp, hmem, by simp⟩, by simp [Literal.chars]⟩
  · cases left with
    | nil =>
        left
        rw [List.nil_append] at hleft
        split at hleft
        · cases hleft
        · exact (List.cons.inj hleft).1
    | cons d others =>
        obtain ⟨rfl, hothers⟩ := List.cons.inj hleft
        right
        have hmem : ∀ e ∈ c :: others, e.isDigit = true := fun e he =>
          n.isDigit_whole e (hwhole ▸ List.mem_append_right _ he)
        exact ⟨⟨c :: others, n.fraction, by simp, hmem, n.isDigit_fraction⟩, by
          rw [hothers]; rfl⟩

theorem Literal.chars_ne_nil (n : Literal) : n.chars ≠ [] :=
  (Word.literal n).chars_ne_nil

theorem Literal.of_mem_chars {n : Literal} {c : Char} (hc : c ∈ n.chars) :
    c.isDigit = true ∨ c = '.' := by
  unfold Literal.chars at hc
  rcases List.mem_append.1 hc with hc | hc
  · exact .inl (n.isDigit_whole c hc)
  · split at hc
    · cases hc
    · rcases List.mem_cons.1 hc with hc | hc
      · exact .inr hc
      · exact .inl (n.isDigit_fraction c hc)

end DeskCalculator.Surface
