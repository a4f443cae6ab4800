import DeskCalculator.Entry.Canonical
import DeskCalculator.Token
import Mathlib

/-!
# Passes over a text

How `replaceAll` goes on behind a match, behind a character where its rule does
not match, and behind a stretch in which the rule matches nowhere; where no
plain number starts; and how the classes of characters that the rules look at
are related.
-/

namespace DeskCalculator.Entry

open Text

/-! ## One position -/

theorem replaceAll_nil (rule : Rule) (previous : Option Char) : replaceAll rule previous [] = [] := by
  rw [replaceAll]

theorem replaceAll_cons_of_none {rule : Rule} {previous : Option Char} {c : Char}
    {rest : List Char} (h : rule previous (c :: rest) = none) :
    replaceAll rule previous (c :: rest) = c :: replaceAll rule (some c) rest := by
  rw [replaceAll, h]

/-- A match is replaced, and the pass goes on behind it. -/
theorem replaceAll_append_of_some {rule : Rule} {previous : Option Char}
    {matched rest replacement : List Char} (hne : matched ≠ [])
    (h : rule previous (matched ++ rest) = some (matched.length, replacement)) :
    replaceAll rule previous (matched ++ rest) =
      replacement ++ replaceAll rule matched.getLast? rest := by
  cases matched with
  | nil => exact absurd rfl hne
  | cons c others =>
      rw [List.cons_append] at h ⊢
      rw [replaceAll, h]
      simp

/-! ## Stretches without a match -/

/-- The character before the text that follows a stretch. -/
def behind (previous : Option Char) (stretch : List Char) : Option Char :=
  stretch.getLast?.or previous

@[simp] theorem behind_nil (previous : Option Char) : behind previous [] = previous := rfl

theorem behind_cons (previous : Option Char) (c : Char) (stretch : List Char) :
    behind previous (c :: stretch) = behind (some c) stretch := by
  unfold behind
  rw [List.getLast?_cons]
  cases stretch.getLast? <;> rfl

theorem behind_append (previous : Option Char) (first second : List Char) :
    behind previous (first ++ second) = behind (behind previous first) second := by
  unfold behind
  rw [List.getLast?_append, Option.or_assoc]

theorem behind_of_ne_nil {stretch : List Char} (hne : stretch ≠ []) (previous : Option Char) :
    behind previous stretch = stretch.getLast? := by
  unfold behind
  rw [List.getLast?_eq_some_getLast hne]
  rfl

theorem mem_of_mem_behind {stretch : List Char} (hne : stretch ≠ []) {previous : Option Char}
    {c : Char} (hc : c ∈ behind previous stretch) : c ∈ stretch := by
  rw [behind_of_ne_nil hne] at hc
  exact List.mem_of_getLast? hc

/-- A stretch in which the rule matches nowhere stays as it is. -/
theorem replaceAll_append_of_none {rule : Rule} {stretch rest : List Char} :
    ∀ {previous : Option Char},
      (∀ before c after, stretch = before ++ c :: after →
        rule (behind previous before) (c :: after ++ rest) = none) →
      replaceAll rule previous (stretch ++ rest) =
        stretch ++ replaceAll rule (behind previous stretch) rest := by
  induction stretch with
  | nil =>
      intro previous _
      rfl
  | cons c others ih =>
      intro previous h
      have hfirst : rule previous (c :: (others ++ rest)) = none := h [] c others rfl
      rw [List.cons_append, replaceAll_cons_of_none hfirst, ih, behind_cons, List.cons_append]
      intro before d after hsplit
      have hlater := h (c :: before) d after (by rw [hsplit, List.cons_append])
      rwa [behind_cons] at hlater

/-- A stretch of characters with which no match starts stays as it is. -/
theorem replaceAll_append_of_forall {rule : Rule} {stretch rest : List Char}
    {previous : Option Char} (h : ∀ c ∈ stretch, ∀ before after, rule before (c :: after) = none) :
    replaceAll rule previous (stretch ++ rest) =
      stretch ++ replaceAll rule (behind previous stretch) rest := by
  refine replaceAll_append_of_none fun before c after hsplit => h c ?_ _ _
  rw [hsplit]
  exact List.mem_append_right _ List.mem_cons_self

/-! ## Plain numbers -/

theorem digitRun_eq_zero {text : List Char} (h : ∀ c ∈ text.head?, isDigit c = false) :
    digitRun text = 0 := by
  cases text with
  | nil => rfl
  | cons c rest => simp [digitRun, h c rfl]

theorem take_length_takeWhile (p : Char → Bool) (text : List Char) :
    text.take (text.takeWhile p).length = text.takeWhile p := by
  calc text.take (text.takeWhile p).length
      = (text.takeWhile p ++ text.dropWhile p).take (text.takeWhile p).length := by
        rw [List.takeWhile_append_dropWhile]
    _ = text.takeWhile p := List.take_left

theorem drop_length_takeWhile (p : Char → Bool) (text : List Char) :
    text.drop (text.takeWhile p).length = text.dropWhile p := by
  calc text.drop (text.takeWhile p).length
      = (text.takeWhile p ++ text.dropWhile p).drop (text.takeWhile p).length := by
        rw [List.takeWhile_append_dropWhile]
    _ = text.dropWhile p := List.drop_left

/-- A run of a class of characters ends where another character stands. -/
theorem takeWhile_append_of_stop {p : Char → Bool} {run rest : List Char}
    (hrun : ∀ c ∈ run, p c = true) (hrest : ∀ c ∈ rest.head?, p c = false) :
    (run ++ rest).takeWhile p = run := by
  rw [List.takeWhile_append_of_pos hrun]
  cases rest with
  | nil => simp
  | cons c others => simp [hrest c rfl]

theorem isDigit_of_mem_take_digitRun {text : List Char} {c : Char}
    (hc : c ∈ text.take (digitRun text)) : isDigit c = true := by
  rw [digitRun, take_length_takeWhile] at hc
  exact List.mem_takeWhile_imp hc

/-- Digits, the point behind them, and what is taken of the rest. -/
theorem take_point {text rest : List Char} (h : text.drop (digitRun text) = '.' :: rest)
    (fraction : ℕ) : text.take (digitRun text + 1 + fraction) =
      text.take (digitRun text) ++ '.' :: rest.take fraction := by
  rw [Nat.add_assoc, List.take_add, h, Nat.add_comm 1, List.take_succ_cons]

theorem mem_take_point {text rest : List Char} {c : Char}
    (h : text.drop (digitRun text) = '.' :: rest)
    (hc : c ∈ text.take (digitRun text + 1 + digitRun rest)) : isDigit c = true ∨ c = '.' := by
  rw [take_point h] at hc
  rcases List.mem_append.1 hc with hc | hc
  · exact .inl (isDigit_of_mem_take_digitRun hc)
  · rcases List.mem_cons.1 hc with rfl | hc
    · exact .inr rfl
    · exact .inl (isDigit_of_mem_take_digitRun hc)

theorem plain?_of_not_isDigit {text : List Char} (h : ∀ c ∈ text.head?, isDigit c = false) :
    plain? text = none := by
  simp [plain?, plainLength, digitRun_eq_zero h]

/-! ## Classes of characters -/

theorem toNat_of_isDigit {c : Char} : c.isDigit = true ↔ 48 ≤ c.toNat ∧ c.toNat ≤ 57 := by
  simp only [Char.isDigit, Bool.and_eq_true, decide_eq_true_eq, ge_iff_le, UInt32.le_iff_toNat_le]
  rfl

theorem toNat_of_isAlpha {c : Char} : c.isAlpha = true ↔
    (65 ≤ c.toNat ∧ c.toNat ≤ 90) ∨ (97 ≤ c.toNat ∧ c.toNat ≤ 122) := by
  simp only [Char.isAlpha, Char.isUpper, Char.isLower, Bool.or_eq_true, Bool.and_eq_true,
    decide_eq_true_eq, ge_iff_le, UInt32.le_iff_toNat_le]
  rfl

/-- The decimal digits within ASCII are the usual ones. -/
theorem isDigit_of_ascii {c : Char} (hascii : c.toNat < 128) : isDigit c = c.isDigit := by
  have hall : ∀ code < 128, (digitZeros.find? fun first =>
      decide (first ≤ code) && decide (code < first + 10)).isSome =
        decide (48 ≤ code ∧ code ≤ 57) := by
    decide +kernel
  rw [isDigit, digitValue?, Option.isSome_map, hall _ hascii, Bool.eq_iff_iff, toNat_of_isDigit,
    decide_eq_true_eq]

theorem isDigit_of_core {c : Char} (h : c.isDigit = true) : isDigit c = true := by
  have hrange := toNat_of_isDigit.1 h
  rw [isDigit_of_ascii (by omega), h]

theorem not_isDigit_of_isAlpha {c : Char} (h : c.isAlpha = true) : isDigit c = false := by
  have hrange := toNat_of_isAlpha.1 h
  rw [isDigit_of_ascii (by omega), Bool.eq_false_iff]
  intro hdigit
  have := toNat_of_isDigit.1 hdigit
  omega

theorem isWord_of_isAlpha {c : Char} (h : c.isAlpha = true) : isWord c = true :=
  isWord_of_isAlphanum (by simp [Char.isAlphanum, h])

theorem isWord_of_isDigit {c : Char} (h : c.isDigit = true) : isWord c = true :=
  isWord_of_isAlphanum (by simp [Char.isAlphanum, h])

/-- Ranges that lie apart have no code point in common. -/
theorem not_inRanges_of_apart {first second : List (Nat × Nat)} {code : Nat}
    (hapart : ∀ range ∈ first, ∀ other ∈ second, range.2 < other.1 ∨ other.2 < range.1)
    (hfirst : inRanges first code = true) : inRanges second code = false := by
  rw [Bool.eq_false_iff]
  intro hsecond
  obtain ⟨range, hrange, hlow, hhigh⟩ := inRanges_eq_true_iff.1 hfirst
  obtain ⟨other, hother, hlow', hhigh'⟩ := inRanges_eq_true_iff.1 hsecond
  have := hapart range hrange other hother
  omega

/-- No word character is a blank. -/
theorem not_isBlank_of_isWord {c : Char} (h : isWord c = true) : isBlank c = false := by
  by_cases hascii : c.toNat < 128
  · have hall : ∀ code < 128, inRanges blankRanges code = true → code < 33 := by decide +kernel
    rw [Bool.eq_false_iff]
    intro hblank
    have hlow := hall _ hascii hblank
    simp only [isWord, hascii, if_true, Char.isAlphanum, Bool.or_eq_true, toNat_of_isAlpha,
      toNat_of_isDigit, beq_iff_eq] at h
    rcases h with h | rfl
    · omega
    · exact absurd hlow (by decide)
  · have hapart : ∀ range ∈ wordRanges, ∀ other ∈ blankRanges,
        range.2 < other.1 ∨ other.2 < range.1 := by
      decide +kernel
    rw [isWord, if_neg hascii] at h
    exact not_inRanges_of_apart hapart h

/-- The decimal digits as ranges of code points. -/
theorem inRanges_of_isDigit {c : Char} (h : isDigit c = true) :
    inRanges (digitZeros.map fun first => (first, first + 9)) c.toNat = true := by
  rw [inRanges_eq_true_iff]
  obtain ⟨value, hvalue⟩ := Option.isSome_iff_exists.1 h
  obtain ⟨first, hfind, -⟩ := Option.map_eq_some_iff.1 hvalue
  have hrange := List.find?_some hfind
  simp only [Bool.and_eq_true, decide_eq_true_eq] at hrange
  exact ⟨_, List.mem_map_of_mem (List.mem_of_find?_eq_some hfind), hrange.1, by omega⟩

/-- No decimal digit is a blank. -/
theorem not_isBlank_of_isDigit {c : Char} (h : isDigit c = true) : isBlank c = false := by
  have hapart : ∀ range ∈ digitZeros.map fun first => (first, first + 9), ∀ other ∈ blankRanges,
      range.2 < other.1 ∨ other.2 < range.1 := by
    decide +kernel
  exact not_inRanges_of_apart hapart (inRanges_of_isDigit h)

end DeskCalculator.Entry
