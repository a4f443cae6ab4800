import DeskCalculator.Proofs.Entry.Outline
import DeskCalculator.Proofs.Entry.Passes

/-!
# The passes keep the outline

Every rule of the canonical form replaces a filler by a filler, and what it
replaces contains no letter of a function of two arguments, no parenthesis and
no comma.  So each pass keeps the outline of a text, and each call of such a
function in it, with the outline of its arguments (`preserves_canonical`).
Nor does a pass change a text without the sign that its rule needs
(`Needs.replaceAll_eq`).
-/

namespace DeskCalculator.Entry

open Text

/-! ## Plain numbers -/

/-- A plain number at the start of a text is made of digits and perhaps a point. -/
theorem mem_take_plainLength {text : List Char} {c : Char}
    (hc : c ∈ text.take (plainLength text)) : isDigit c = true ∨ c = '.' := by
  unfold plainLength at hc
  simp only at hc
  split at hc
  · simp at hc
  split at hc
  · next behind hbehind =>
      split at hc
      · exact .inl (isDigit_of_mem_take_digitRun hc)
      · exact mem_take_point hbehind hc
  · exact .inl (isDigit_of_mem_take_digitRun hc)

/-- What is found as a plain number. -/
structure IsPlain (number : List Char) : Prop where
  mem : ∀ c ∈ number, isDigit c = true ∨ c = '.'
  digit : ∃ c rest, number = c :: rest ∧ isDigit c = true

theorem plain?_eq_some {text number rest : List Char} (h : plain? text = some (number, rest)) :
    text = number ++ rest ∧ IsPlain number ∧ ∀ c ∈ text.head?, isDigit c = true := by
  have hhead : ∀ c ∈ text.head?, isDigit c = true := by
    intro c hc
    rw [← Bool.not_eq_false]
    intro hdigit
    have hnone : plain? text = none := by
      refine plain?_of_not_isDigit fun d hd => ?_
      rw [Option.mem_unique hd hc, hdigit]
    rw [hnone] at h
    cases h
  unfold plain? at h
  simp only at h
  split at h
  · cases h
  · next hlength =>
      cases h
      refine ⟨(List.take_append_drop _ _).symm, ⟨fun c => mem_take_plainLength, ?_⟩, hhead⟩
      cases text with
      | nil => simp [plainLength, digitRun] at hlength
      | cons c others =>
          obtain ⟨length, hsucc⟩ := Nat.exists_eq_succ_of_ne_zero hlength
          exact ⟨c, others.take length, by rw [hsucc, List.take_succ_cons], hhead c rfl⟩

/-! ## What a rule replaces -/

/-- The characters that some rule replaces. -/
def isReplaced (c : Char) : Bool :=
  isDigit c || isBlank c || c ∈ ['.', '%', '+', '-', 'π', 'e', '^', '!']

theorem not_isOutline_of_isReplaced {c : Char} (h : isReplaced c = true) : isOutline c = false :=
  not_isOutline_of_class (by decide) h

/-- Whether a stretch may give way to another one. -/
structure Replaces (stretch replacement : List Char) : Prop where
  mem : ∀ c ∈ stretch, isReplaced c = true
  head : ∃ c rest, stretch = c :: rest ∧ isBlank c = false
  written : Filler replacement

theorem Replaces.found {stretch replacement : List Char} (h : Replaces stretch replacement) :
    Filler stretch := by
  obtain ⟨c, rest, hstretch, hblank⟩ := h.head
  have hneutral : Neutral stretch :=
    neutral_of_forall fun d hd => not_isOutline_of_isReplaced (h.mem d hd)
  exact filler_of_mem hneutral (by simp [hstretch]) hblank

/-- Whether a rule only ever replaces stretches that may give way to what it writes. -/
def Quiet (rule : Rule) : Prop :=
  ∀ previous text length replacement, rule previous text = some (length, replacement) →
    ∃ stretch rest, text = stretch ++ rest ∧ length = stretch.length ∧
      Replaces stretch replacement

theorem IsPlain.isReplaced {number : List Char} (h : IsPlain number) :
    ∀ c ∈ number, isReplaced c = true := by
  intro c hc
  unfold Entry.isReplaced
  rcases h.mem c hc with hdigit | rfl
  · rw [hdigit]
    rfl
  · decide

theorem IsPlain.neutral {number : List Char} (h : IsPlain number) : Neutral number :=
  neutral_of_forall fun c hc => not_isOutline_of_isReplaced (h.isReplaced c hc)

/-! ## The rules -/

/-- What the rule for other percentages finds. -/
theorem barePercent_eq_some {previous : Option Char} {text replacement : List Char} {length : Nat}
    (h : barePercent previous text = some (length, replacement)) :
    ∃ share rest, text = (share ++ ['%']) ++ rest ∧ length = (share ++ ['%']).length ∧
      replacement = '(' :: share ++ "/100)".toList ∧ IsPlain share := by
  unfold barePercent at h
  cases hplain : plain? text with
  | none => simp [hplain] at h
  | some found =>
      obtain ⟨share, behind⟩ := found
      obtain ⟨htext, hshare, -⟩ := plain?_eq_some hplain
      simp only [hplain, Option.bind_eq_bind, Option.bind_some] at h
      split at h
      · next rest =>
          cases h
          exact ⟨share, rest, by simp [htext], by simp, rfl, hshare⟩
      · cases h

theorem quiet_barePercent : Quiet barePercent := by
  intro previous text length replacement h
  obtain ⟨share, rest, htext, hlength, rfl, hshare⟩ := barePercent_eq_some h
  obtain ⟨c, digits, rfl, hdigit⟩ := hshare.digit
  have hneutral : Neutral ('(' :: (c :: digits ++ "/100".toList ++ [')'])) :=
    (hshare.neutral.append (neutral_of_forall (by simp [isOutline]))).enclosed.bracket
  refine ⟨c :: digits ++ ['%'], rest, htext, hlength, ?_, ?_, ?_⟩
  · intro d hd
    rcases List.mem_append.1 hd with hd | hd
    · exact hshare.isReplaced d hd
    · rw [List.mem_singleton.1 hd]
      decide
  · exact ⟨c, digits ++ ['%'], rfl, not_isBlank_of_isDigit hdigit⟩
  · exact @filler_of_mem _ c (by simpa using hneutral) (by simp) (not_isBlank_of_isDigit hdigit)

private theorem drop_blankRun (text : List Char) :
    text.takeWhile isBlank ++ text.drop (blankRun text) = text := by
  rw [blankRun, drop_length_takeWhile, List.takeWhile_append_dropWhile]

/-- The percentage of a plain number, with the number and the operator before it. -/
theorem neutral_percentOfBase {base share : List Char} {operator : Char} (hbase : IsPlain base)
    (hshare : IsPlain share) (hoperator : isOutline operator = false) :
    Neutral (base ++ ' ' :: operator :: " (".toList ++ base ++ " * ".toList ++ share ++
      " / 100)".toList) := by
  have hspace : Neutral [' ', operator, ' '] :=
    neutral_of_forall (by simpa [isOutline] using hoperator)
  have hinner : Neutral (base ++ " * ".toList ++ share ++ " / 100".toList) :=
    ((hbase.neutral.append (neutral_of_forall (by simp [isOutline]))).append
      hshare.neutral).append (neutral_of_forall (by simp [isOutline]))
  have hwhole := (hbase.neutral.append hspace).append hinner.enclosed.bracket
  simpa using hwhole

/-- What the rule for percentages of a number finds. -/
theorem percentOfBase_eq_some {previous : Option Char} {text replacement : List Char}
    {length : Nat} (h : percentOfBase previous text = some (length, replacement)) :
    ∃ base gap operator gap' share rest,
      text = base ++ (gap ++ operator :: (gap' ++ (share ++ ['%']))) ++ rest ∧
      length = (base ++ (gap ++ operator :: (gap' ++ (share ++ ['%'])))).length ∧
      replacement = base ++ ' ' :: operator :: " (".toList ++ base ++ " * ".toList ++ share ++
        " / 100)".toList ∧
      IsPlain base ∧ IsPlain share ∧ (operator = '+' ∨ operator = '-') ∧
      ∀ c ∈ gap ++ gap', isBlank c = true := by
  obtain ⟨⟨base, behindBase⟩, hplain, h⟩ := Option.bind_eq_some_iff.1 h
  obtain ⟨htext, hbase, -⟩ := plain?_eq_some hplain
  simp only at h
  split at h
  swap
  · cases h
  next operator behindOperator hoperator =>
  split at h
  swap
  · cases h
  next hsign =>
  obtain ⟨⟨share, behindShare⟩, hplain', h⟩ := Option.bind_eq_some_iff.1 h
  obtain ⟨htext', hshare, -⟩ := plain?_eq_some hplain'
  simp only at h
  split at h
  swap
  · cases h
  next rest =>
  cases h
  have hbehind := drop_blankRun behindBase
  have hbehind' := drop_blankRun behindOperator
  rw [hoperator] at hbehind
  rw [htext'] at hbehind'
  refine ⟨base, behindBase.takeWhile isBlank, operator, behindOperator.takeWhile isBlank, share,
    rest, ?_, ?_, rfl, hbase, hshare, hsign, ?_⟩
  · rw [htext]
    conv_lhs => rw [← hbehind, ← hbehind']
    simp
  · simp only [blankRun, List.length_append, List.length_cons, List.length_nil]
    omega
  · intro c hc
    rcases List.mem_append.1 hc with hc | hc
    · exact List.mem_takeWhile_imp hc
    · exact List.mem_takeWhile_imp hc

theorem quiet_percentOfBase : Quiet percentOfBase := by
  intro previous text length replacement h
  obtain ⟨base, gap, operator, gap', share, rest, htext, hlength, rfl, hbase, hshare, hsign, hgap⟩ :=
    percentOfBase_eq_some h
  have hoperator : isReplaced operator = true := by
    rcases hsign with rfl | rfl
    · decide
    · decide
  obtain ⟨c, digits, hdigits, hdigit⟩ := hbase.digit
  have hblank := not_isBlank_of_isDigit hdigit
  have hneutral := neutral_percentOfBase hbase hshare (not_isOutline_of_isReplaced hoperator)
  refine ⟨_, rest, htext, hlength, ?_, ?_, filler_of_mem hneutral ?_ hblank⟩
  · intro d hd
    have hblanks : ∀ e ∈ gap ++ gap', isReplaced e = true := by
      intro e he
      simp [isReplaced, hgap e he]
    simp only [List.mem_append, List.mem_cons, List.not_mem_nil, or_false] at hd hblanks
    rcases hd with hd | hd | rfl | hd | hd | rfl
    · exact hbase.isReplaced d hd
    · exact hblanks d (.inl hd)
    · exact hoperator
    · exact hblanks d (.inr hd)
    · exact hshare.isReplaced d hd
    · decide
  · exact ⟨c, digits ++ (gap ++ operator :: (gap' ++ (share ++ ['%']))), by simp [hdigits], hblank⟩
  · simp [hdigits]

/-- Whether a rule writes the same text for each place of one sign that it replaces. -/
def ReplacesSign (rule : Rule) (sign : Char) (written : List Char) : Prop :=
  ∀ previous text length replacement, rule previous text = some (length, replacement) →
    ∃ rest, text = [sign] ++ rest ∧ length = [sign].length ∧ replacement = written

theorem ReplacesSign.quiet {rule : Rule} {sign : Char} {written : List Char}
    (hfound : ReplacesSign rule sign written)
    (hreplaced : isReplaced sign = true) (hblank : isBlank sign = false)
    (hwritten : written.all (fun c => !isOutline c && !isBlank c) = true) (hne : written ≠ []) :
    Quiet rule := by
  intro previous text length replacement h
  obtain ⟨rest, rfl, rfl, rfl⟩ := hfound previous text length replacement h
  have hall : ∀ c ∈ replacement, isOutline c = false ∧ isBlank c = false := by
    simpa using List.all_eq_true.1 hwritten
  have hneutral : Neutral replacement := neutral_of_forall fun c hc => (hall c hc).1
  obtain ⟨d, hd⟩ := List.exists_mem_of_ne_nil _ hne
  refine ⟨[sign], rest, rfl, rfl, ?_, ⟨sign, [], rfl, hblank⟩,
    filler_of_mem hneutral hd (hall d hd).2⟩
  intro c hc
  rw [List.mem_singleton.1 hc]
  exact hreplaced

theorem replacesSign_circleSign : ReplacesSign circleSign 'π' ['P', 'I'] := by
  intro previous text length replacement h
  unfold circleSign at h
  split at h
  · cases h
    exact ⟨_, rfl, rfl, rfl⟩
  · cases h

theorem replacesSign_eulerSign : ReplacesSign eulerSign 'e' ['E'] := by
  intro previous text length replacement h
  unfold eulerSign at h
  split at h
  · split at h
    · cases h
    · cases h
      exact ⟨_, rfl, rfl, rfl⟩
  · cases h

theorem replacesSign_powerSign : ReplacesSign powerSign '^' ['*', '*'] := by
  intro previous text length replacement h
  unfold powerSign at h
  split at h
  · cases h
    exact ⟨_, rfl, rfl, rfl⟩
  · cases h

theorem quiet_circleSign : Quiet circleSign :=
  replacesSign_circleSign.quiet (by decide) (by decide) (by decide) (by simp)

theorem quiet_eulerSign : Quiet eulerSign :=
  replacesSign_eulerSign.quiet (by decide) (by decide) (by decide) (by simp)

theorem quiet_powerSign : Quiet powerSign :=
  replacesSign_powerSign.quiet (by decide) (by decide) (by decide) (by simp)

/-- What the rule for factorials finds. -/
theorem factorialSign_eq_some {previous : Option Char} {text replacement : List Char}
    {length : Nat} (h : factorialSign previous text = some (length, replacement)) :
    ∃ sign operand rest, text = sign ++ (operand ++ ['!']) ++ rest ∧
      length = (sign ++ (operand ++ ['!'])).length ∧
      replacement = "factorial(".toList ++ sign ++ operand ++ [')'] ∧
      (∀ c ∈ sign, c = '-') ∧ IsPlain operand := by
  unfold factorialSign at h
  split at h
  next sign number hnumber =>
    have hsplit : text = sign ++ number ∧ ∀ c ∈ sign, c = '-' := by
      split at hnumber
      · split at hnumber
        · cases hnumber
          simp
        · cases hnumber
          simp
      · cases hnumber
        simp
    obtain ⟨htext, hsign⟩ := hsplit
    cases hplain : plain? number with
    | none => simp [hplain] at h
    | some found =>
        obtain ⟨operand, behind⟩ := found
        obtain ⟨hnumber, hoperand, -⟩ := plain?_eq_some hplain
        simp only [hplain, Option.bind_eq_bind, Option.bind_some] at h
        split at h
        · next rest =>
            cases h
            refine ⟨sign, operand, rest, by simp [htext, hnumber], by simp [Nat.add_assoc], rfl,
              hsign, hoperand⟩
        · cases h

theorem quiet_factorialSign : Quiet factorialSign := by
  intro previous text length replacement h
  obtain ⟨sign, operand, rest, htext, hlength, rfl, hsign, hoperand⟩ := factorialSign_eq_some h
  obtain ⟨c, digits, hdigits, hdigit⟩ := hoperand.digit
  have hblank := not_isBlank_of_isDigit hdigit
  have hreplaced : ∀ d ∈ sign, isReplaced d = true := by
    intro d hd
    rw [hsign d hd]
    decide
  have hneutral : Neutral ("factorial".toList ++ '(' :: ((sign ++ operand) ++ [')'])) :=
    (neutral_of_forall (by simp [isOutline])).append
      ((neutral_of_forall fun d hd => not_isOutline_of_isReplaced (hreplaced d hd)).append
        hoperand.neutral).enclosed.bracket
  refine ⟨_, rest, htext, hlength, ?_, ?_, @filler_of_mem _ c (by simpa using hneutral) ?_ hblank⟩
  · intro d hd
    simp only [List.mem_append, List.mem_singleton] at hd
    rcases hd with hd | hd | rfl
    · exact hreplaced d hd
    · exact hoperand.isReplaced d hd
    · decide
  · cases sign with
    | nil => exact ⟨c, digits ++ ['!'], by simp [hdigits], hblank⟩
    | cons d signs =>
        have hminus : d = '-' := hsign d List.mem_cons_self
        exact ⟨d, signs ++ (operand ++ ['!']), rfl, by rw [hminus]; decide⟩
  · simp [hdigits]

/-! ## Where a match ends -/

/-- Whether each match of a rule ends in one sign, and what the rule writes for it in another. -/
def EndsIn (rule : Rule) (sign closing : Char) : Prop :=
  ∀ previous text length replacement, rule previous text = some (length, replacement) →
    (text.take length).getLast? = some sign ∧ replacement.getLast? = some closing

theorem ReplacesSign.endsIn {rule : Rule} {sign closing : Char} {written : List Char}
    (hfound : ReplacesSign rule sign written) (hwritten : written.getLast? = some closing) :
    EndsIn rule sign closing := by
  intro previous text length replacement h
  obtain ⟨rest, rfl, rfl, rfl⟩ := hfound previous text length replacement h
  rw [List.take_left]
  exact ⟨rfl, hwritten⟩

theorem endsIn_circleSign : EndsIn circleSign 'π' 'I' := replacesSign_circleSign.endsIn rfl

theorem endsIn_eulerSign : EndsIn eulerSign 'e' 'E' := replacesSign_eulerSign.endsIn rfl

theorem endsIn_powerSign : EndsIn powerSign '^' '*' := replacesSign_powerSign.endsIn rfl

theorem endsIn_percentOfBase : EndsIn percentOfBase '%' ')' := by
  intro previous text length replacement h
  obtain ⟨base, gap, operator, gap', share, rest, rfl, rfl, rfl, -⟩ := percentOfBase_eq_some h
  rw [List.take_left]
  constructor
  · have hfound : base ++ (gap ++ operator :: (gap' ++ (share ++ ['%']))) =
        (base ++ (gap ++ operator :: (gap' ++ share))) ++ ['%'] := by
      simp
    rw [hfound, List.getLast?_concat]
  · have hwritten : " / 100)".toList = " / 100".toList ++ [')'] := by decide
    rw [hwritten, ← List.append_assoc, List.getLast?_concat]

theorem endsIn_barePercent : EndsIn barePercent '%' ')' := by
  intro previous text length replacement h
  obtain ⟨share, rest, rfl, rfl, rfl, -⟩ := barePercent_eq_some h
  rw [List.take_left]
  constructor
  · exact List.getLast?_concat
  · have hwritten : "/100)".toList = "/100".toList ++ [')'] := by decide
    rw [hwritten, ← List.append_assoc, List.getLast?_concat]

theorem endsIn_factorialSign : EndsIn factorialSign '!' ')' := by
  intro previous text length replacement h
  obtain ⟨sign, operand, rest, rfl, rfl, rfl, -⟩ := factorialSign_eq_some h
  rw [List.take_left]
  constructor
  · rw [← List.append_assoc, List.getLast?_concat]
  · exact List.getLast?_concat

/-! ## Passes without their sign -/

/-- Whether a rule finds something only where its sign stands. -/
def Needs (rule : Rule) (sign : Char) : Prop :=
  ∀ previous text length replacement, rule previous text = some (length, replacement) → sign ∈ text

theorem Needs.replaceAll_eq {rule : Rule} {sign : Char} (needs : Needs rule sign)
    {text : List Char} (h : sign ∉ text) (previous : Option Char) :
    replaceAll rule previous text = text := by
  induction text generalizing previous with
  | nil => exact replaceAll_nil _ _
  | cons c rest ih =>
      have hnone : rule previous (c :: rest) = none :=
        Option.eq_none_iff_forall_ne_some.2 fun found hfound => h (needs _ _ _ _ hfound)
      rw [replaceAll_cons_of_none hnone, ih fun hmem => h (List.mem_cons_of_mem c hmem)]

theorem ReplacesSign.needs {rule : Rule} {sign : Char} {written : List Char}
    (hfound : ReplacesSign rule sign written) : Needs rule sign := by
  intro previous text length replacement h
  obtain ⟨rest, rfl, -⟩ := hfound _ _ _ _ h
  exact List.mem_cons_self

theorem needs_percentOfBase : Needs percentOfBase '%' := by
  intro previous text length replacement h
  obtain ⟨base, gap, operator, gap', share, rest, rfl, -⟩ := percentOfBase_eq_some h
  simp

theorem needs_barePercent : Needs barePercent '%' := by
  intro previous text length replacement h
  obtain ⟨share, rest, rfl, -⟩ := barePercent_eq_some h
  simp

theorem needs_factorialSign : Needs factorialSign '!' := by
  intro previous text length replacement h
  obtain ⟨sign, operand, rest, rfl, -⟩ := factorialSign_eq_some h
  simp

/-! ## Passes -/

theorem Filler.ne_nil {stretch : List Char} (h : Filler stretch) : stretch ≠ [] := by
  rintro rfl
  cases h.not_blank

/-- What a match of a quiet rule replaces, what it writes, and where the pass goes on. -/
theorem Quiet.match_eq {rule : Rule} (quiet : Quiet rule) {previous : Option Char} {c : Char}
    {rest replacement : List Char} {length : Nat}
    (h : rule previous (c :: rest) = some (length, replacement)) :
    ∃ stretch others, c :: rest = stretch ++ others ∧ length = stretch.length ∧
      Replaces stretch replacement ∧ rest.drop (length - 1) = others := by
  obtain ⟨stretch, others, htext, hlength, hreplaces⟩ := quiet _ _ _ _ h
  refine ⟨stretch, others, htext, hlength, hreplaces, ?_⟩
  have hne := hreplaces.found.ne_nil
  cases stretch with
  | nil => exact absurd rfl hne
  | cons d tail =>
      rw [List.cons_append] at htext
      obtain ⟨-, hrest⟩ := List.cons.inj htext
      rw [hrest, hlength]
      simp

/-- A pass keeps the outline. -/
theorem Quiet.outlines {rule : Rule} (quiet : Quiet rule) (previous : Option Char)
    (text : List Char) : Outlines text (replaceAll rule previous text) := by
  fun_induction replaceAll rule previous text with
  | case1 previous => exact .nil
  | case2 previous c rest length replacement hfound ih =>
      obtain ⟨stretch, others, htext, -, hreplaces, hothers⟩ := quiet.match_eq hfound
      rw [hothers] at ih ⊢
      rw [htext]
      exact .swap hreplaces.found hreplaces.written (htext ▸ ih)
  | case3 previous c rest hnone ih => exact .keep c ih

/-- A character that no rule replaces cuts a pass in two. -/
theorem Quiet.replaceAll_append {rule : Rule} (quiet : Quiet rule) {c : Char}
    (hc : isReplaced c = false) (rest : List Char) (text : List Char) (previous : Option Char) :
    ∀ before, text = before ++ c :: rest →
      ∃ written, replaceAll rule previous text = written ++ c :: replaceAll rule (some c) rest := by
  fun_induction replaceAll rule previous text with
  | case1 previous =>
      intro before htext
      simp at htext
  | case2 previous d after length replacement hfound ih =>
      intro before hsplit
      obtain ⟨stretch, others, htext, -, hreplaces, hothers⟩ := quiet.match_eq hfound
      have hlater : ∃ later, others = later ++ c :: rest := by
        rw [htext] at hsplit
        rcases List.append_eq_append_iff.1 hsplit with ⟨later, hbefore, hlater⟩ | ⟨later, hstretch, hlater⟩
        · exact ⟨later, hlater⟩
        · cases later with
          | nil => exact ⟨[], by simpa using hlater.symm⟩
          | cons e tail =>
              obtain ⟨rfl, -⟩ := List.cons.inj hlater
              have hmem := hreplaces.mem c (by simp [hstretch])
              rw [hc] at hmem
              cases hmem
      obtain ⟨later, hlater⟩ := hlater
      obtain ⟨written, hwritten⟩ := ih later (hothers ▸ hlater)
      exact ⟨replacement ++ written, by rw [hwritten, List.append_assoc]⟩
  | case3 previous d after hnone ih =>
      intro before hsplit
      cases before with
      | nil =>
          obtain ⟨rfl, rfl⟩ := List.cons.inj hsplit
          exact ⟨[], rfl⟩
      | cons e before =>
          obtain ⟨rfl, hafter⟩ := List.cons.inj hsplit
          obtain ⟨written, hwritten⟩ := ih before hafter
          exact ⟨d :: written, by rw [hwritten, List.cons_append]⟩

/-- Behind a blank, or a character that no rule replaces, a pass goes on. -/
theorem Quiet.eq_none {rule : Rule} (quiet : Quiet rule) {c : Char}
    (hc : isReplaced c = false ∨ isBlank c = true) (previous : Option Char) (rest : List Char) :
    rule previous (c :: rest) = none := by
  cases hfound : rule previous (c :: rest) with
  | none => rfl
  | some found =>
      obtain ⟨length, replacement⟩ := found
      obtain ⟨stretch, others, htext, -, hreplaces, -⟩ := quiet.match_eq hfound
      obtain ⟨d, tail, rfl, hblank⟩ := hreplaces.head
      obtain ⟨rfl, -⟩ := List.cons.inj htext
      rcases hc with hc | hc
      · have hmem := hreplaces.mem c List.mem_cons_self
        rw [hc] at hmem
        cases hmem
      · rw [hc] at hblank
        cases hblank

/-- A pass keeps each call of a function whose name it cannot touch. -/
theorem Quiet.callsWith {rule : Rule} (quiet : Quiet rule) {name inside text : List Char}
    (hne : name ≠ []) (hname : ∀ c ∈ name, isReplaced c = false) (h : CallsWith name inside text)
    (previous : Option Char) :
    CallsWith name (replaceAll rule (some '(') inside) (replaceAll rule previous text) := by
  obtain ⟨before, gap, htext, hgap⟩ := h
  cases name with
  | nil => exact absurd rfl hne
  | cons c tail =>
      obtain ⟨written, hwritten⟩ := quiet.replaceAll_append (hname c List.mem_cons_self)
        (tail ++ (gap ++ '(' :: inside)) text previous before htext
      refine ⟨written, gap, ?_, hgap⟩
      have hbehind : replaceAll rule (some c) ((tail ++ (gap ++ ['('])) ++ inside) =
          (tail ++ (gap ++ ['('])) ++ replaceAll rule (some '(') inside := by
        rw [replaceAll_append_of_forall, behind_append, behind_append]
        · rfl
        · intro d hd before after
          refine quiet.eq_none ?_ before after
          simp only [List.mem_append, List.mem_singleton] at hd
          rcases hd with hd | hd | rfl
          · exact .inl (hname d (List.mem_cons_of_mem _ hd))
          · exact .inr (hgap d hd)
          · exact .inl (by decide)
      have hinside : tail ++ (gap ++ '(' :: inside) = (tail ++ (gap ++ ['('])) ++ inside := by simp
      rw [hwritten, hinside, hbehind]
      simp

/-! ## The canonical form -/

/-- Whether a text has the surplus of parentheses of another, and each of its calls of a function of
two arguments, with arguments of the same shape. -/
structure Preserves (first second : List Char) : Prop where
  count : first.count '(' + second.count ')' = first.count ')' + second.count '('
  calls : ∀ function ∈ pairFunctions, ∀ inside, CallsWith function.toList inside first →
    ∃ other, CallsWith function.toList other second ∧ shape 0 other = shape 0 inside

theorem Preserves.trans {first second third : List Char} (earlier : Preserves first second)
    (later : Preserves second third) : Preserves first third where
  count := by
    have hearlier := earlier.count
    have hlater := later.count
    omega
  calls function hfunction inside hinside := by
    obtain ⟨other, hother, hshape⟩ := earlier.calls function hfunction inside hinside
    obtain ⟨another, hanother, hshape'⟩ := later.calls function hfunction other hother
    exact ⟨another, hanother, hshape'.trans hshape⟩

/-- No rule touches the name of a function of two arguments. -/
theorem not_isReplaced_of_mem_pairFunctions {function : String} (h : function ∈ pairFunctions) :
    function.toList ≠ [] ∧ ∀ c ∈ function.toList, isReplaced c = false := by
  have hall : pairFunctions.all (fun function =>
      !function.toList.isEmpty && function.toList.all fun c => !isReplaced c) = true := by
    decide
  simpa using List.all_eq_true.1 hall function h

theorem Quiet.preserves {rule : Rule} (quiet : Quiet rule) (previous : Option Char)
    (text : List Char) : Preserves text (replaceAll rule previous text) where
  count := (quiet.outlines previous text).count
  calls function hfunction inside hinside := by
    obtain ⟨hne, hname⟩ := not_isReplaced_of_mem_pairFunctions hfunction
    exact ⟨_, quiet.callsWith hne hname hinside previous, ((quiet.outlines _ inside).shape 0).symm⟩

/-- The canonical form keeps the parentheses and the calls of an entry. -/
theorem preserves_canonical (entry : List Char) : Preserves entry (canonical entry) :=
  (quiet_percentOfBase.preserves none entry).trans <|
    (quiet_barePercent.preserves none _).trans <|
      (quiet_circleSign.preserves none _).trans <|
        (quiet_eulerSign.preserves none _).trans <|
          (quiet_powerSign.preserves none _).trans (quiet_factorialSign.preserves none _)

end DeskCalculator.Entry
