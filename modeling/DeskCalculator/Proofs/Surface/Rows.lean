import DeskCalculator.Proofs.Surface.Context
import DeskCalculator.Proofs.Surface.Tree

/-!
# The words of a surface tree

The words of a tree are kept apart, begin where an operand may begin and end
where one may end (`Tree.row`).  What an enclosing tree has to know about them
besides, the literal at their end and the factorial at their start, is what the
tree says about itself.
-/

namespace DeskCalculator.Surface

/-! ## Operands -/

/-- Whether a row of words can stand where an operand is due. -/
structure IsOperandRow (words : List Word) : Prop where
  ne_nil : words ≠ []
  apart : Apart words
  ended : endsBehind true words = true
  head : ∀ w ∈ words.head?, w.kind ≠ .star
  typed : ∀ w ∈ words, ¬ w.IsSpaced

private theorem isOperandRow_single {w : Word} (hkind : w.kind = .operand) : IsOperandRow [w] where
  ne_nil := by simp
  apart := List.isChain_singleton w
  ended := Word.endsOperand_of_kind hkind
  head := by
    intro v hv
    cases hv
    rw [hkind]
    decide
  typed := by
    rintro v hv ⟨m, rfl⟩
    rw [← List.mem_singleton.1 hv] at hkind
    cases hkind

theorem endsBehind_of_ended {ended : Bool} {words : List Word} (hne : words ≠ [])
    (h : endsBehind true words = true) : endsBehind ended words = true := by
  cases words with
  | nil => exact absurd rfl hne
  | cons w rest => rwa [endsBehind_cons] at h ⊢

/-- A mark before an operand. -/
theorem IsOperandRow.apart_mark {words : List Word} (h : IsOperandRow words) (m : Mark) :
    Apart (.mark m :: words) := by
  refine apart_cons.2 ⟨fun v hv hkind => ?_, h.apart⟩
  have hstar := h.head v hv
  cases m with
  | star => exact absurd hkind.symm hstar
  | caret => exact absurd hkind.symm hstar
  | power => exact absurd hkind.symm hstar
  | _ => rfl

theorem IsOperandRow.sign {words : List Word} (h : IsOperandRow words) (s : Sign) :
    IsOperandRow (.mark (.sign s) :: words) where
  ne_nil := by simp
  apart := h.apart_mark _
  ended := by
    rw [endsBehind_cons]
    exact endsBehind_of_ended h.ne_nil h.ended
  head := by
    intro v hv
    cases hv
    simp [Word.kind]
  typed := by
    intro w hw
    rcases List.mem_cons.1 hw with rfl | hw
    · rintro ⟨m, hm⟩
      cases hm
    · exact h.typed w hw

/-- The last word of an operand may stand before any mark. -/
theorem IsOperandRow.mayPrecede_mark {words : List Word} (h : IsOperandRow words) {v : Word}
    (hv : v ∈ words.getLast?) (m : Mark) : v.MayPrecede (.mark m) := by
  have hended : v.endsOperand = true := by
    have := h.ended
    rwa [endsBehind, Option.mem_def.1 hv] at this
  intro hkind
  cases v with
  | mark n =>
      cases n with
      | closing => rfl
      | _ => cases hended
  | spaced n => cases hended
  | _ => cases m <;> cases hkind

theorem IsOperandRow.append {first second : List Word} {m : Mark} (hfirst : IsOperandRow first)
    (hapart : Apart (.mark m :: second))
    (hended : endsBehind true (.mark m :: second) = true)
    (htyped : ∀ w ∈ second, ¬ w.IsSpaced) : IsOperandRow (first ++ .mark m :: second) where
  ne_nil := by simp
  apart := by
    refine apart_append.2 ⟨hfirst.apart, hapart, fun v hv w hw => ?_⟩
    cases hw
    exact hfirst.mayPrecede_mark hv m
  ended := by
    rw [endsBehind_append, hfirst.ended, hended]
  head := by
    rw [List.head?_append_of_ne_nil _ hfirst.ne_nil]
    exact hfirst.head
  typed := by
    intro w hw
    rcases List.mem_append.1 hw with hw | hw
    · exact hfirst.typed w hw
    · rcases List.mem_cons.1 hw with rfl | hw
      · rintro ⟨n, hn⟩
        cases hn
      · exact htyped w hw

theorem IsOperandRow.join {first second : List Word} (hfirst : IsOperandRow first)
    (hsecond : IsOperandRow second) (m : Mark) : IsOperandRow (first ++ .mark m :: second) := by
  refine hfirst.append (hsecond.apart_mark m) ?_ hsecond.typed
  rw [endsBehind_cons]
  exact endsBehind_of_ended hsecond.ne_nil hsecond.ended

/-- What stands between parentheses. -/
theorem bracket_row {inner : List Word} (h : inner = [] ∨ IsOperandRow inner) :
    Apart (.mark .opening :: (inner ++ [.mark .closing])) ∧
      ∀ w ∈ inner ++ [Word.mark .closing], ¬ w.IsSpaced := by
  have hclosing : ¬ (Word.mark .closing).IsSpaced := by
    rintro ⟨m, hm⟩
    cases hm
  have hlast : Apart [Word.mark .closing] := List.isChain_singleton _
  rcases h with rfl | h
  · refine ⟨apart_cons.2 ⟨fun v _ _ => rfl, hlast⟩, fun w hw => ?_⟩
    rw [List.mem_singleton.1 hw]
    exact hclosing
  · refine ⟨apart_cons.2 ⟨fun v _ _ => rfl, ?_⟩, fun w hw => ?_⟩
    · refine apart_append.2 ⟨h.apart, hlast, fun v hv w hw => ?_⟩
      cases hw
      exact h.mayPrecede_mark hv .closing
    · rcases List.mem_append.1 hw with hw | hw
      · exact h.typed w hw
      · rw [List.mem_singleton.1 hw]
        exact hclosing

theorem ended_bracket (ended : Bool) (inner : List Word) :
    endsBehind ended (.mark .opening :: (inner ++ [.mark .closing])) = true := by
  rw [endsBehind_cons, endsBehind_append]
  rfl

private theorem isOperandRow_group {inner : List Word} (h : IsOperandRow inner) :
    IsOperandRow (.mark .opening :: (inner ++ [.mark .closing])) where
  ne_nil := by simp
  apart := (bracket_row (.inr h)).1
  ended := ended_bracket true inner
  head := by
    intro v hv
    cases hv
    decide
  typed := by
    intro w hw
    rcases List.mem_cons.1 hw with rfl | hw
    · rintro ⟨m, hm⟩
      cases hm
    · exact (bracket_row (.inr h)).2 w hw

/-! ## The words of a tree -/

theorem separated_cons_cons (first second : List Word) (rows : List (List Word)) :
    Tree.separated (first :: second :: rows) =
      first ++ .mark .comma :: Tree.separated (second :: rows) := by
  simp [Tree.separated, List.intercalate]

theorem separated_singleton (row : List Word) : Tree.separated [row] = row := by
  simp [Tree.separated, List.intercalate]

/-- Operands with commas between them. -/
theorem isOperandRow_separated {row : List Word} {others : List (List Word)}
    (h : ∀ words ∈ row :: others, IsOperandRow words) :
    IsOperandRow (Tree.separated (row :: others)) := by
  induction others generalizing row with
  | nil =>
      rw [separated_singleton]
      exact h row List.mem_cons_self
  | cons next more ih =>
      rw [separated_cons_cons]
      have hrest := ih fun words hwords => h words (List.mem_cons_of_mem _ hwords)
      exact (h row List.mem_cons_self).join hrest .comma

private theorem row_separated {rows : List (List Word)} (h : ∀ words ∈ rows, IsOperandRow words) :
    Tree.separated rows = [] ∨ IsOperandRow (Tree.separated rows) := by
  cases rows with
  | nil => exact .inl rfl
  | cons row others => exact .inr (isOperandRow_separated h)

theorem lastLiteral?_append {first second : List Word} (hne : second ≠ []) :
    lastLiteral? (first ++ second) = lastLiteral? second := by
  unfold lastLiteral?
  rw [List.getLast?_append_of_ne_nil _ hne]

private theorem lastLiteral?_closing (first : List Word) :
    lastLiteral? (first ++ [.mark .closing]) = none :=
  lastLiteral?_append (by simp)

namespace Tree

mutual

/-- The words of a tree can stand where an operand is due. -/
theorem row : ∀ t : Tree, IsOperandRow t.words
  | literal n => isOperandRow_single rfl
  | percentage n => isOperandRow_single rfl
  | factorial n => isOperandRow_single rfl
  | circle => isOperandRow_single rfl
  | euler => isOperandRow_single rfl
  | name n => isOperandRow_single rfl
  | sign s operand => operand.row.sign s
  | operation left operator right => left.row.join right.row operator.mark
  | group inner => isOperandRow_group inner.row
  | call callee arguments => by
      have hrows := row_separated (rowsOfAll arguments)
      obtain ⟨hapart, htyped⟩ := bracket_row hrows
      exact callee.row.append hapart (ended_bracket true _) htyped

/-- The words of each of several trees can do so. -/
theorem rowsOfAll : ∀ trees : List Tree, ∀ row ∈ wordsOfAll trees, IsOperandRow row
  | [] => by simp [wordsOfAll]
  | t :: rest => by
      intro words hwords
      rcases List.mem_cons.1 hwords with rfl | hwords
      · exact t.row
      · exact rowsOfAll rest words hwords

end

/-- The literal at the end of the words of a tree. -/
theorem lastLiteral?_words : ∀ t : Tree, lastLiteral? t.words = t.trailing?
  | literal n => rfl
  | percentage n => rfl
  | factorial n => rfl
  | circle => rfl
  | euler => rfl
  | name n => rfl
  | sign s operand => by
      have hsplit : (sign s operand).words = [.mark (.sign s)] ++ operand.words := rfl
      rw [hsplit, lastLiteral?_append operand.row.ne_nil, operand.lastLiteral?_words, trailing?]
  | operation left operator right => by
      have hsplit : (operation left operator right).words =
          left.words ++ [.mark operator.mark] ++ right.words := by
        simp [words]
      rw [hsplit, lastLiteral?_append right.row.ne_nil, right.lastLiteral?_words, trailing?]
  | group inner => lastLiteral?_closing (.mark .opening :: inner.words)
  | call callee arguments => by
      have hsplit : (call callee arguments).words =
          callee.words ++ .mark .opening :: separated (wordsOfAll arguments) ++
            [.mark .closing] := by
        simp [words]
      rw [hsplit, lastLiteral?_closing]
      rfl

/-- The factorial at the start of the words of a tree. -/
theorem head?_words : ∀ t : Tree,
    (∃ n, t.words.head? = some (.factorial n)) ↔ t.beginsWithFactorial = true
  | literal n => by simp [words, beginsWithFactorial]
  | percentage n => by simp [words, beginsWithFactorial]
  | factorial n => by simp [words, beginsWithFactorial]
  | circle => by simp [words, beginsWithFactorial]
  | euler => by simp [words, beginsWithFactorial]
  | name n => by simp [words, beginsWithFactorial]
  | sign s operand => by simp [words, beginsWithFactorial]
  | operation left operator right => by
      rw [words, List.head?_append_of_ne_nil _ left.row.ne_nil, beginsWithFactorial]
      exact left.head?_words
  | group inner => by simp [words, beginsWithFactorial]
  | call callee arguments => by
      rw [words, List.head?_append_of_ne_nil _ callee.row.ne_nil, beginsWithFactorial]
      exact callee.head?_words

end Tree

end DeskCalculator.Surface
