import DeskCalculator.Proofs.Entry.Preserved
import DeskCalculator.Proofs.Surface.Neighbours

/-!
# Where a pass can be cut

A plain number ends where neither a digit nor a point follows (`plain?_append`), so a
rule that starts from one finds nothing in digits and points that something else than
its own sign stands behind.  A pass can be cut in two before a text that does not change
what its rule finds in front of it (`Local.replaceAll_append`).
-/

namespace DeskCalculator.Entry

open Text Surface

/-! ## Plain numbers -/

/-- Whether a text as a whole is a plain number. -/
def PlainNumber (text : List Char) : Prop := plain? text = some (text, [])

instance (text : List Char) : Decidable (PlainNumber text) :=
  inferInstanceAs (Decidable (plain? text = some (text, [])))

/-- A run of a class of characters is the same with something else behind the text. -/
theorem takeWhile_append_of_head {p : Char → Bool} {text rest : List Char}
    (hrest : ∀ c ∈ rest.head?, p c = false) :
    (text ++ rest).takeWhile p = text.takeWhile p := by
  have hnone : rest.takeWhile p = [] := by
    cases rest with
    | nil => rfl
    | cons c others => simp [hrest c rfl]
  rw [List.takeWhile_append, hnone]
  split
  · next hlength => rw [List.append_nil, (List.takeWhile_prefix p).eq_of_length hlength]
  · rfl

theorem digitRun_append_of_stops {text rest : List Char} (hrest : Stops rest) :
    digitRun (text ++ rest) = digitRun text := by
  rw [digitRun, takeWhile_append_of_head fun c hc => (hrest c hc).1, digitRun]

theorem digitRun_le (text : List Char) : digitRun text ≤ text.length :=
  (List.takeWhile_prefix _).length_le

theorem plainLength_le (text : List Char) : plainLength text ≤ text.length := by
  have hlength := digitRun_le text
  unfold plainLength
  simp only
  split
  · omega
  · split
    · next rest hrest =>
        have hsplit : text.length = digitRun text + (rest.length + 1) := by
          rw [← List.length_cons, ← hrest, List.length_drop]
          omega
        have := digitRun_le rest
        split <;> omega
    · omega

private theorem plainLength_append {text rest : List Char} (hrest : Stops rest) :
    plainLength (text ++ rest) = plainLength text := by
  have hlength := digitRun_le text
  unfold plainLength
  simp only [digitRun_append_of_stops hrest, List.drop_append_of_le_length hlength]
  cases text.drop (digitRun text) with
  | nil =>
      rw [List.nil_append]
      split
      · rfl
      · split
        · exact absurd rfl (hrest '.' rfl).2
        · rfl
  | cons c others =>
      by_cases hpoint : c = '.'
      · subst hpoint
        simp only [List.cons_append, digitRun_append_of_stops hrest]
      · simp [hpoint]

/-- A plain number is found with anything behind it that does not go on with it. -/
theorem plain?_append {text rest : List Char} (hrest : Stops rest) :
    plain? (text ++ rest) = (plain? text).map fun found => (found.1, found.2 ++ rest) := by
  have hlength := plainLength_le text
  unfold plain?
  simp only [plainLength_append hrest]
  split
  · rfl
  · rw [List.take_append_of_le_length hlength, List.drop_append_of_le_length hlength]
    rfl

theorem PlainNumber.plain?_append {number rest : List Char} (h : PlainNumber number)
    (hrest : Stops rest) : plain? (number ++ rest) = some (number, rest) := by
  rw [Entry.plain?_append hrest, h]
  rfl

theorem PlainNumber.mem {number : List Char} (h : PlainNumber number) :
    ∀ c ∈ number, isDigit c = true ∨ c = '.' :=
  (plain?_eq_some h).2.1.mem

theorem PlainNumber.head {number : List Char} (h : PlainNumber number) :
    ∃ c rest, number = c :: rest ∧ isDigit c = true :=
  (plain?_eq_some h).2.1.digit

/-! ## Digits and points that a rule finds nothing in -/

theorem percentOfBase_of_behind {previous : Option Char} {text base behindBase : List Char}
    (h : plain? text = some (base, behindBase))
    (hhead : ∀ c ∈ behindBase.head?, isBlank c = false ∧ c ≠ '+' ∧ c ≠ '-') :
    percentOfBase previous text = none := by
  rw [percentOfBase, h]
  cases behindBase with
  | nil => rfl
  | cons c rest =>
      obtain ⟨hblank, hplus, hminus⟩ := hhead c rfl
      have hnone : blankRun (c :: rest) = 0 := by simp [blankRun, hblank]
      simp [hnone, hplus, hminus]

theorem barePercent_of_behind {previous : Option Char} {text share behindShare : List Char}
    (h : plain? text = some (share, behindShare)) (hhead : ∀ c ∈ behindShare.head?, c ≠ '%') :
    barePercent previous text = none := by
  rw [barePercent, h]
  cases behindShare with
  | nil => rfl
  | cons c rest =>
      have hc := hhead c rfl
      simp only [Option.bind_eq_bind, Option.bind_some]
      split
      · next heq => exact absurd (List.cons.inj heq).1 hc
      · rfl

/-- What the rule finds behind a text depends on what its plain number leaves of it. -/
theorem percentOfBase_append {previous : Option Char} {text rest : List Char} (hrest : Stops rest)
    (hhead : ∀ base behindBase, plain? text = some (base, behindBase) →
      ∀ c ∈ (behindBase ++ rest).head?, isBlank c = false ∧ c ≠ '+' ∧ c ≠ '-') :
    percentOfBase previous (text ++ rest) = none := by
  have hplain := @plain?_append text rest hrest
  cases hfound : plain? text with
  | none =>
      rw [hfound] at hplain
      rw [percentOfBase, hplain]
      rfl
  | some found =>
      rw [hfound] at hplain
      exact percentOfBase_of_behind hplain (hhead found.1 found.2 hfound)

theorem barePercent_append {previous : Option Char} {text rest : List Char} (hrest : Stops rest)
    (hhead : ∀ share behindShare, plain? text = some (share, behindShare) →
      ∀ c ∈ (behindShare ++ rest).head?, c ≠ '%') :
    barePercent previous (text ++ rest) = none := by
  have hplain := @plain?_append text rest hrest
  cases hfound : plain? text with
  | none =>
      rw [hfound] at hplain
      rw [barePercent, hplain]
      rfl
  | some found =>
      rw [hfound] at hplain
      exact barePercent_of_behind hplain (hhead found.1 found.2 hfound)

/-- Whether a text consists of digits and points. -/
def IsNumeric (text : List Char) : Prop := ∀ c ∈ text, isDigit c = true ∨ c = '.'

/-- What stands behind the plain number at the start of digits and points: more of these, or what
they are followed by. -/
theorem head_behind_plain {text rest number behindNumber : List Char} (htext : IsNumeric text)
    (h : plain? text = some (number, behindNumber)) {P : Char → Prop}
    (hnumeric : ∀ c, isDigit c = true ∨ c = '.' → P c) (hrest : ∀ c ∈ rest.head?, P c) :
    ∀ c ∈ (behindNumber ++ rest).head?, P c := by
  cases behindNumber with
  | nil => exact hrest
  | cons d others =>
      intro c hc
      cases hc
      have hsplit := (plain?_eq_some h).1
      exact hnumeric d (htext d (by rw [hsplit]; simp))

/-- Whether a character can stand behind digits without making them a percentage of anything. -/
theorem percentOfBase_numeric {previous : Option Char} {text rest : List Char}
    (htext : IsNumeric text) (hstops : Stops rest)
    (hhead : ∀ c ∈ rest.head?, isBlank c = false ∧ c ≠ '+' ∧ c ≠ '-') :
    percentOfBase previous (text ++ rest) = none := by
  refine percentOfBase_append hstops fun number behindNumber hplain =>
    head_behind_plain htext hplain ?_ hhead
  rintro c (hdigit | rfl)
  · refine ⟨not_isBlank_of_isDigit hdigit, ?_, ?_⟩
    · rintro rfl
      exact absurd hdigit (by decide)
    · rintro rfl
      exact absurd hdigit (by decide)
  · decide

theorem barePercent_numeric {previous : Option Char} {text rest : List Char}
    (htext : IsNumeric text) (hstops : Stops rest) (hhead : ∀ c ∈ rest.head?, c ≠ '%') :
    barePercent previous (text ++ rest) = none := by
  refine barePercent_append hstops fun number behindNumber hplain =>
    head_behind_plain htext hplain ?_ hhead
  rintro c (hdigit | rfl)
  · rintro rfl
    exact absurd hdigit (by decide)
  · decide

/-- A stretch of digits and points stays as it is if the rule finds nothing from any place in it. -/
theorem replaceAll_numeric {rule : Rule} {previous : Option Char} {text rest : List Char}
    (htext : IsNumeric text)
    (hrule : ∀ before tail, IsNumeric tail → tail ≠ [] → rule before (tail ++ rest) = none) :
    replaceAll rule previous (text ++ rest) =
      text ++ replaceAll rule (behind previous text) rest := by
  refine replaceAll_append_of_none fun before c after hsplit => ?_
  refine hrule _ (c :: after) (fun d hd => htext d ?_) (List.cons_ne_nil c after)
  rw [hsplit]
  exact List.mem_append_right _ hd

/-! ## Passes in two parts -/

/-- Whether the rule finds the same in every text with and without `rest` behind it. -/
def Local (rule : Rule) (rest : List Char) : Prop :=
  ∀ previous text, text ≠ [] → rule previous (text ++ rest) = rule previous text

/-- Such a pass goes through the text as if nothing stood behind it. -/
theorem Local.replaceAll_append {rule : Rule} {rest : List Char} (hlocal : Local rule rest)
    (quiet : Quiet rule) (previous : Option Char) (text : List Char) :
    replaceAll rule previous (text ++ rest) =
      replaceAll rule previous text ++ replaceAll rule (behind previous text) rest := by
  fun_induction replaceAll rule previous text with
  | case1 previous => rfl
  | case2 previous c others length replacement hfound ih =>
      have hfound' := (hlocal previous _ (List.cons_ne_nil c others)).trans hfound
      obtain ⟨stretch, later, htext, hlength, hreplaces, hlater⟩ := quiet.match_eq hfound
      have hne := hreplaces.found.ne_nil
      rw [hlater, hlength, htext, List.take_left] at ih ⊢
      rw [htext, hlength, List.append_assoc] at hfound'
      rw [List.append_assoc, replaceAll_append_of_some hne hfound', ih, behind_append,
        behind_of_ne_nil hne, List.append_assoc]
  | case3 previous c others hnone ih =>
      have hnone' := (hlocal previous _ (List.cons_ne_nil c others)).trans hnone
      rw [List.cons_append] at hnone' ⊢
      rw [replaceAll_cons_of_none hnone', ih, behind_cons, List.cons_append]

/-- The rule for `e` looks at one character behind it. -/
theorem local_eulerSign {rest : List Char} (hrest : ∀ c ∈ rest.head?, isWord c = false) :
    Local eulerSign rest := by
  intro previous text hne
  cases text with
  | nil => exact absurd rfl hne
  | cons c others =>
      by_cases hc : c = 'e'
      · subst hc
        cases others with
        | cons d more => rfl
        | nil =>
            cases rest with
            | nil => rfl
            | cons d more => simp [eulerSign, hrest d rfl]
      · rw [List.cons_append, eulerSign_of_ne hc, eulerSign_of_ne hc]

theorem Quiet.replaceAll_ne_nil {rule : Rule} (quiet : Quiet rule) {previous : Option Char}
    {text : List Char} (hne : text ≠ []) : replaceAll rule previous text ≠ [] := by
  cases text with
  | nil => exact absurd rfl hne
  | cons c rest =>
      cases hfound : rule previous (c :: rest) with
      | none =>
          rw [replaceAll_cons_of_none hfound]
          exact List.cons_ne_nil _ _
      | some found =>
          obtain ⟨length, replacement⟩ := found
          obtain ⟨stretch, later, htext, hlength, hreplaces, -⟩ := quiet.match_eq hfound
          rw [htext] at hfound ⊢
          rw [replaceAll_append_of_some hreplaces.found.ne_nil (hlength ▸ hfound)]
          exact List.append_ne_nil_of_left_ne_nil hreplaces.written.ne_nil _

/-- Whether a rule writes a character of this class at the end wherever it replaces one there, and
nowhere else. -/
def KeepsEnd (P : Char → Bool) (rule : Rule) : Prop :=
  ∀ previous text length replacement, rule previous text = some (length, replacement) →
    replacement.getLast?.any P = (text.take length).getLast?.any P

theorem EndsIn.keepsEnd {P : Char → Bool} {rule : Rule} {sign closing : Char}
    (ends : EndsIn rule sign closing) (h : P closing = P sign) : KeepsEnd P rule := by
  intro previous text length replacement hfound
  obtain ⟨hsign, hclosing⟩ := ends _ _ _ _ hfound
  rw [hsign, hclosing]
  exact h

/-- Then a pass keeps the class of the last character. -/
theorem KeepsEnd.replaceAll {P : Char → Bool} {rule : Rule} (keeps : KeepsEnd P rule)
    (quiet : Quiet rule) (previous : Option Char) (text : List Char) :
    (replaceAll rule previous text).getLast?.any P = text.getLast?.any P := by
  fun_induction Entry.replaceAll rule previous text with
  | case1 previous => rfl
  | case2 previous c others length replacement hfound ih =>
      have hkept := keeps _ _ _ _ hfound
      obtain ⟨stretch, later, htext, hlength, hreplaces, hlater⟩ := quiet.match_eq hfound
      rw [hlater, hlength, htext, List.take_left] at ih ⊢
      rw [htext, hlength, List.take_left] at hkept
      -- the last character belongs to the match or stands behind it
      by_cases hnil : later = []
      · rw [hnil, replaceAll_nil, List.append_nil, List.append_nil, hkept]
      · rw [List.getLast?_append_of_ne_nil _ (quiet.replaceAll_ne_nil hnil), ih,
          List.getLast?_append_of_ne_nil _ hnil]
  | case3 previous c others hnone ih =>
      by_cases hnil : others = []
      · rw [hnil, replaceAll_nil]
      · have hcons : ∀ {tail : List Char}, tail ≠ [] → (c :: tail).getLast? = tail.getLast? :=
          fun htail => List.getLast?_append_of_ne_nil [c] htail
        rw [hcons (quiet.replaceAll_ne_nil hnil), ih, hcons hnil]

end DeskCalculator.Entry
