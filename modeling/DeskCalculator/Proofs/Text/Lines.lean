import DeskCalculator.Text.Lines
import Mathlib.Tactic

/-!
# Lines of a text that goes on

The lines of a text that have ended stay lines of it whatever is written behind it
(`finishedLines_prefix`), and all lines have ended but at most the last one
(`exists_pending`).

## Strategy

A text goes on in the middle of a line, or behind a line end.  In the first case all its
lines but the last are lines of the whole (`dropLast_lines_prefix`), in the second the
lines of the whole are those of both parts (`lines_append`), unless a carriage return is
torn from its line feed.  A carriage return at the end is therefore not counted, and
leaving it out changes the last line only (`lines_append_return`).  All of this goes by
induction on the text: what a character does to the lines behind it depends on the next
one only (`lines_cons_cons`).
-/

namespace DeskCalculator.Text

variable {first rest : List Char} {c d : Char} {later : List (List Char)}

/-! ## The first character -/

/-- What a character makes of the lines behind it, if `d` is the next one.  Before a line feed a
carriage return makes no line of its own. -/
def grown (c d : Char) (later : List (List Char)) : List (List Char) :=
  if c = '\r' ∧ d = '\n' then later
  else if isLineEnd c then [] :: later
  else (c :: later.headD []) :: later.tail

theorem lines_singleton (c : Char) : lines [c] = if isLineEnd c then [[]] else [[c]] := by
  rw [lines]
  · rfl
  · rintro tail - ⟨⟩

theorem lines_cons_cons (c d : Char) (rest : List Char) :
    lines (c :: d :: rest) = grown c d (lines (d :: rest)) := by
  unfold grown
  split_ifs with hpair hend
  · obtain ⟨rfl, rfl⟩ := hpair
    rw [lines, lines, if_pos (by decide)]
    rintro tail ⟨⟩
  · rw [lines, if_pos hend]
    rintro tail rfl ⟨⟩
    exact hpair ⟨rfl, rfl⟩
  · rw [lines, if_neg hend]
    · cases lines (d :: rest) <;> rfl
    · rintro tail rfl ⟨⟩
      exact hpair ⟨rfl, rfl⟩

private theorem grown_ne_nil (h : later ≠ []) : grown c d later ≠ [] := by
  unfold grown
  split_ifs
  · exact h
  · exact List.cons_ne_nil _ _
  · exact List.cons_ne_nil _ _

theorem lines_cons_ne_nil (c : Char) (rest : List Char) : lines (c :: rest) ≠ [] := by
  induction rest generalizing c with
  | nil =>
      rw [lines_singleton]
      split_ifs <;> exact List.cons_ne_nil _ _
  | cons d rest ih =>
      rw [lines_cons_cons]
      exact grown_ne_nil (ih d)

/-- It leaves alone what stands behind the lines. -/
private theorem grown_append (h : later ≠ []) (others : List (List Char)) :
    grown c d (later ++ others) = grown c d later ++ others := by
  obtain ⟨line, more, rfl⟩ := List.exists_cons_of_ne_nil h
  unfold grown
  split_ifs <;> rfl

/-- It changes the first line only. -/
private theorem dropLast_grown_prefix {others : List (List Char)} (h : later.dropLast <+: others) :
    (grown c d later).dropLast <+: grown c d others := by
  rcases later with - | ⟨line, - | ⟨second, more⟩⟩
  · unfold grown
    split_ifs <;> exact List.nil_prefix
  · unfold grown
    split_ifs
    · exact List.nil_prefix
    · exact List.cons_prefix_cons.2 ⟨rfl, List.nil_prefix⟩
    · exact List.nil_prefix
  · obtain ⟨further, rfl⟩ := h
    unfold grown
    split_ifs
    · exact List.prefix_append _ _
    · exact List.cons_prefix_cons.2 ⟨rfl, List.prefix_append _ _⟩
    · exact List.cons_prefix_cons.2 ⟨rfl, List.prefix_append _ _⟩

/-! ## Going on in the middle of a line -/

/-- All lines but the last stay. -/
theorem dropLast_lines_prefix (first rest : List Char) :
    (lines first).dropLast <+: lines (first ++ rest) := by
  induction first with
  | nil => exact List.nil_prefix
  | cons c tail ih =>
      cases tail with
      | nil =>
          rw [lines_singleton]
          split_ifs <;> exact List.nil_prefix
      | cons d tail =>
          rw [List.cons_append, List.cons_append, lines_cons_cons, lines_cons_cons]
          exact dropLast_grown_prefix ih

/-! ## Going on behind a line end -/

/-- Whether a text ends in a line end. -/
def EndsLine (text : List Char) : Prop := text.getLast?.any isLineEnd = true

private theorem endsLine_cons : EndsLine (c :: d :: rest) ↔ EndsLine (d :: rest) := by
  rw [EndsLine, EndsLine, List.getLast?_cons_cons]

/-- The lines behind a line end follow those before it, unless a line feed belongs to it. -/
theorem lines_append (h : EndsLine first)
    (happart : first.getLast? = some '\r' → rest.head? ≠ some '\n') :
    lines (first ++ rest) = lines first ++ lines rest := by
  induction first with
  | nil => cases h
  | cons c tail ih =>
      cases tail with
      | nil =>
          have hend : isLineEnd c = true := h
          rw [lines_singleton, if_pos hend, List.singleton_append, lines, if_pos hend]
          · rfl
          · rintro others rfl rfl
            exact happart rfl rfl
      | cons d tail =>
          rw [List.cons_append, List.cons_append, lines_cons_cons, lines_cons_cons,
            ← List.cons_append, ih (endsLine_cons.1 h) (by simpa using happart),
            grown_append (lines_cons_ne_nil d tail)]

/-! ## A carriage return at the end -/

/-- A carriage return ends the line before it and begins no other. -/
private theorem lines_append_return (hne : first ≠ []) (h : ¬ EndsLine first) :
    lines (first ++ ['\r']) = lines first := by
  induction first with
  | nil => exact absurd rfl hne
  | cons c tail ih =>
      cases tail with
      | nil =>
          have hend : isLineEnd c = false := Bool.eq_false_iff.2 h
          have hreturn : ¬ (c = '\r' ∧ '\r' = '\n') := fun hpair => absurd hpair.2 (by decide)
          rw [List.singleton_append, lines_cons_cons, grown, if_neg hreturn, hend, lines_singleton,
            lines_singleton, hend]
          rfl
      | cons d tail =>
          rw [List.cons_append, List.cons_append, lines_cons_cons, lines_cons_cons,
            ← List.cons_append, ih (List.cons_ne_nil _ _) (mt endsLine_cons.2 h)]

/-! ## Lines that have ended -/

theorem finishedLines_of_return (known : List Char) : finishedLines (known ++ ['\r']) =
    if known.getLast?.any isLineEnd then lines known else (lines known).dropLast := by
  simp [finishedLines]

theorem finishedLines_of_no_return {text : List Char} (h : text.getLast? ≠ some '\r') :
    finishedLines text =
      if text.getLast?.any isLineEnd then lines text else (lines text).dropLast := by
  simp [finishedLines, h]

/-- A text has a carriage return at its end, or it has none there. -/
private theorem return_cases (text : List Char) :
    (∃ known, text = known ++ ['\r']) ∨ text.getLast? ≠ some '\r' := by
  rcases List.eq_nil_or_concat text with rfl | ⟨known, c, rfl⟩
  · exact .inr nofun
  · by_cases hc : c = '\r'
    · exact .inl ⟨known, by rw [hc, List.concat_eq_append]⟩
    · exact .inr (by simpa using hc)

/-- A line that has ended stays, whatever follows. -/
theorem finishedLines_prefix (text rest : List Char) :
    finishedLines text <+: lines (text ++ rest) := by
  rcases return_cases text with ⟨known, rfl⟩ | hreturn
  · rw [finishedLines_of_return, List.append_assoc]
    split
    · next hends =>
        rw [lines_append hends fun _ => by simp]
        exact List.prefix_append _ _
    · exact dropLast_lines_prefix known _
  · rw [finishedLines_of_no_return hreturn]
    split
    · next hends =>
        rw [lines_append hends fun h => absurd h hreturn]
        exact List.prefix_append _ _
    · exact dropLast_lines_prefix text rest

/-- All lines have ended, except perhaps the last. -/
theorem exists_pending (text : List Char) :
    ∃ pending, lines text = finishedLines text ++ pending ∧ pending.length ≤ 1 := by
  obtain ⟨pending, hpending⟩ := finishedLines_prefix text []
  rw [List.append_nil] at hpending
  have hlength := congrArg List.length hpending
  rw [List.length_append] at hlength
  refine ⟨pending, hpending.symm, ?_⟩
  rcases return_cases text with ⟨known, rfl⟩ | hreturn
  · rw [finishedLines_of_return] at hlength
    split_ifs at hlength with hends
    · rw [lines_append hends fun _ => by simp, List.length_append] at hlength
      have hreturn : (lines ['\r']).length = 1 := rfl
      omega
    · rw [List.length_dropLast] at hlength
      rcases eq_or_ne known [] with rfl | hne
      · have hreturn : (lines ([] ++ ['\r'])).length = 1 := rfl
        omega
      · rw [lines_append_return hne hends] at hlength
        omega
  · rw [finishedLines_of_no_return hreturn] at hlength
    split_ifs at hlength
    · omega
    · rw [List.length_dropLast] at hlength
      omega

end DeskCalculator.Text
