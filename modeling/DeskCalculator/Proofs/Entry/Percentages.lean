import DeskCalculator.Proofs.Token.Number

/-!
# Percentages of numbers

The rules for percentages know plain numbers only, and a number can end in one without
being one.  So the part that a percentage is taken of is the longest plain number at the
end of the number before the operator (`percentBase?`), and a share that is no plain
number makes the whole text unreadable (`unreadable_hundredths`).
-/

namespace DeskCalculator.Entry

open Text Surface Token

/-! ## Signs that a pass leaves -/

/-- What a pass leaves was written by the rule, or stands where the rule finds nothing. -/
theorem mem_replaceAll {rule : Rule} {previous : Option Char} {text : List Char} {c : Char}
    (h : c ∈ replaceAll rule previous text) :
    (∃ before after length replacement,
      rule before after = some (length, replacement) ∧ c ∈ replacement) ∨
    c ∈ text ∧ ∃ before after, rule before (c :: after) = none := by
  fun_induction replaceAll rule previous text with
  | case1 previous => cases h
  | case2 previous d rest length replacement hfound ih =>
      rcases List.mem_append.1 h with hwritten | hlater
      · exact .inl ⟨_, _, _, _, hfound, hwritten⟩
      · exact (ih hlater).imp_right fun hlater =>
          ⟨List.mem_cons_of_mem d (List.mem_of_mem_drop hlater.1), hlater.2⟩
  | case3 previous d rest hnone ih =>
      rcases List.mem_cons.1 h with rfl | hlater
      · exact .inr ⟨List.mem_cons_self, _, _, hnone⟩
      · exact (ih hlater).imp_right fun hlater => ⟨List.mem_cons_of_mem d hlater.1, hlater.2⟩

/-- Whether a rule never writes this sign. -/
def Omits (rule : Rule) (sign : Char) : Prop :=
  ∀ previous text length replacement, rule previous text = some (length, replacement) →
    sign ∉ replacement

/-- A sign that the rule never writes is gone if the rule finds it, or was not there before. -/
theorem Omits.not_mem_replaceAll {rule : Rule} {sign : Char} (omits : Omits rule sign)
    {text : List Char} (h : sign ∈ text → ∀ before after, rule before (sign :: after) ≠ none)
    (previous : Option Char) : sign ∉ replaceAll rule previous text := by
  intro hmem
  rcases mem_replaceAll hmem with ⟨_, _, _, _, hfound, hwritten⟩ | ⟨hmem, before, after, hnone⟩
  · exact omits _ _ _ _ hfound hwritten
  · exact h hmem before after hnone

/-- A pass brings no sign back that its rule never writes. -/
theorem Omits.keeps {rule : Rule} {sign : Char} (omits : Omits rule sign) {text : List Char}
    (h : sign ∉ text) (previous : Option Char) : sign ∉ replaceAll rule previous text :=
  omits.not_mem_replaceAll (fun hmem => absurd hmem h) previous

theorem ReplacesSign.omits {rule : Rule} {sign other : Char} {written : List Char}
    (hfound : ReplacesSign rule sign written) (h : other ∉ written) : Omits rule other := by
  intro previous text length replacement hmatch
  obtain ⟨rest, -, -, rfl⟩ := hfound _ _ _ _ hmatch
  exact h

/-- The canonical form of an entry without constants, power signs and factorials other than `e`. -/
theorem canonical_eq_replaceAll_eulerSign {entry : List Char}
    (h : ∀ c ∈ withoutPercentages entry, c ∉ ['π', '^', '!']) :
    canonical entry = replaceAll eulerSign none (withoutPercentages entry) := by
  have hsigns : ∀ sign ∈ ['π', '^', '!'], sign ∉ withoutPercentages entry :=
    fun sign hsign hmem => h sign hmem hsign
  have heuler : ∀ sign ∈ ['π', '^', '!'],
      sign ∉ replaceAll eulerSign none (withoutPercentages entry) := by
    intro sign hsign
    have hother : sign ∉ ['E'] := by
      intro hmem
      rw [List.mem_singleton.1 hmem] at hsign
      exact absurd hsign (by decide)
    exact (replacesSign_eulerSign.omits hother).keeps (hsigns sign hsign) none
  rw [canonical, replacesSign_circleSign.needs.replaceAll_eq (hsigns 'π' (by decide)),
    replacesSign_powerSign.needs.replaceAll_eq (heuler '^' (by decide)),
    needs_factorialSign.replaceAll_eq (heuler '!' (by decide))]

/-! ## Plain numbers at the end of a number -/

/-- The longest plain number at the end of a text. -/
def percentBase? : List Char → Option (List Char)
  | [] => none
  | c :: rest => if PlainNumber (c :: rest) then some (c :: rest) else percentBase? rest

theorem PlainNumber.ne_nil {number : List Char} (h : PlainNumber number) : number ≠ [] := by
  rintro rfl
  exact absurd h (by decide)

theorem percentBase?_of_plain {number : List Char} (h : PlainNumber number) :
    percentBase? number = some number := by
  cases number with
  | nil => exact absurd rfl h.ne_nil
  | cons c rest => rw [percentBase?, if_pos h]

/-- What the rule for bare percentages makes of a number before a percent sign. -/
def hundredths : List Char → List Char
  | [] => ['%']
  | c :: rest =>
    if PlainNumber (c :: rest) then '(' :: (c :: rest) ++ "/100)".toList else c :: hundredths rest

theorem hundredths_of_plain {number : List Char} (h : PlainNumber number) :
    hundredths number = '(' :: number ++ "/100)".toList := by
  cases number with
  | nil => exact absurd rfl h.ne_nil
  | cons c rest => rw [hundredths, if_pos h]

/-! ## The passes for percentages -/

section

variable {previous : Option Char} {text share : List Char} {operator : Char}

/-- A text that is no plain number has something behind the plain number at its start. -/
theorem ne_nil_of_not_plain {number behindNumber : List Char} (h : ¬ PlainNumber text)
    (hplain : plain? text = some (number, behindNumber)) : behindNumber ≠ [] := by
  rintro rfl
  obtain ⟨rfl, -⟩ := plain?_eq_some hplain
  rw [List.append_nil] at hplain h
  exact h hplain

theorem barePercent_not_plain (hlike : NumberLike text) (h : ¬ PlainNumber text)
    {rest : List Char} (hrest : Stops rest) : barePercent previous (text ++ rest) = none := by
  refine barePercent_append hrest fun number behindNumber hplain c hc => ?_
  rw [List.head?_append_of_ne_nil _ (ne_nil_of_not_plain h hplain)] at hc
  exact (hlike.head_behind_plain hplain c hc).2.2.2

theorem percentOfBase_not_plain (hlike : NumberLike text) (h : ¬ PlainNumber text)
    {rest : List Char} (hrest : Stops rest) : percentOfBase previous (text ++ rest) = none := by
  refine percentOfBase_append hrest fun number behindNumber hplain c hc => ?_
  rw [List.head?_append_of_ne_nil _ (ne_nil_of_not_plain h hplain)] at hc
  obtain ⟨hblank, hplus, hminus, -⟩ := hlike.head_behind_plain hplain c hc
  exact ⟨hblank, hplus, hminus⟩

private theorem percentOfBase_percent (h : PlainNumber text) (rest : List Char) :
    percentOfBase previous (text ++ '%' :: rest) = none := by
  refine percentOfBase_of_behind (h.plain?_append stops_percent) ?_
  rintro c ⟨⟩
  decide

theorem barePercent_percent (h : PlainNumber text) (rest : List Char) :
    barePercent previous (text ++ '%' :: rest) =
      some (text.length + 1, '(' :: text ++ "/100)".toList) := by
  rw [barePercent, h.plain?_append stops_percent]
  rfl

/-- Without a base the first pass leaves a percentage alone. -/
theorem replaceAll_percentOfBase_share (hlike : NumberLike share) :
    replaceAll percentOfBase previous (share ++ ['%']) = share ++ ['%'] := by
  induction share generalizing previous with
  | nil =>
      rw [List.nil_append, replaceAll_cons_of_none (percentOfBase_of_not_isDigit (by decide)),
        replaceAll_nil]
  | cons c rest ih =>
      have hnone : percentOfBase previous (c :: rest ++ ['%']) = none := by
        by_cases hplain : PlainNumber (c :: rest)
        · exact percentOfBase_percent hplain []
        · exact percentOfBase_not_plain hlike hplain stops_percent
      rw [List.cons_append] at hnone ⊢
      rw [replaceAll_cons_of_none hnone, ih hlike.tail]

theorem replaceAll_barePercent_share (hlike : NumberLike share) :
    replaceAll barePercent previous (share ++ ['%']) = hundredths share := by
  induction share generalizing previous with
  | nil =>
      rw [List.nil_append, replaceAll_cons_of_none (barePercent_of_not_isDigit (by decide)),
        replaceAll_nil]
      rfl
  | cons c rest ih =>
      by_cases hplain : PlainNumber (c :: rest)
      · have hmatch := @barePercent_percent previous _ hplain []
        have happend := @replaceAll_append_of_some barePercent previous (c :: rest ++ ['%']) []
          ('(' :: (c :: rest) ++ "/100)".toList) (by simp) (by simpa using hmatch)
        rw [List.append_nil, replaceAll_nil, List.append_nil] at happend
        rw [happend, hundredths_of_plain hplain]
      · have hnone := @barePercent_not_plain previous _ hlike hplain ['%'] stops_percent
        rw [List.cons_append] at hnone ⊢
        rw [replaceAll_cons_of_none hnone, ih hlike.tail, hundredths, if_neg hplain]

/-- The entry that adds a percentage to a number, or subtracts it. -/
def percentage (base : List Char) (operator : Char) (share : List Char) : List Char :=
  base ++ operator :: (share ++ ['%'])

theorem percentage_cons (c : Char) (rest : List Char) (operator : Char) (share : List Char) :
    percentage (c :: rest) operator share = c :: percentage rest operator share := rfl

/-- What is written behind the number for a percentage of this base. -/
def percentageOf (base : List Char) (operator : Char) (share : List Char) : List Char :=
  ' ' :: operator :: " (".toList ++ base ++ " * ".toList ++ share ++ " / 100)".toList

theorem stops_operator (hoperator : operator = '+' ∨ operator = '-') (rest : List Char) :
    Stops (operator :: rest) := by
  rintro c ⟨⟩
  rcases hoperator with rfl | rfl <;> exact ⟨by decide, by decide⟩

theorem isBlank_operator (hoperator : operator = '+' ∨ operator = '-') :
    isBlank operator = false ∧ isDigit operator = false := by
  rcases hoperator with rfl | rfl <;> exact ⟨by decide, by decide⟩

/-- Behind a plain number and an operator, a plain share makes a percentage of the number. -/
theorem percentOfBase_percentage (hbase : PlainNumber text) (hshare : NumberLike share)
    (hoperator : operator = '+' ∨ operator = '-') :
    percentOfBase previous (percentage text operator share) =
      if PlainNumber share then
        some ((percentage text operator share).length, text ++ percentageOf text operator share)
      else none := by
  have hnone : blankRun (operator :: (share ++ ['%'])) = 0 := by
    simp [blankRun, (isBlank_operator hoperator).1]
  have hgap : blankRun (share ++ ['%']) = 0 := by
    cases share with
    | nil => decide
    | cons c rest =>
        simp [blankRun, not_isBlank_of_isNumeral (hshare.mem c List.mem_cons_self)]
  rw [percentOfBase, percentage, hbase.plain?_append (stops_operator hoperator _)]
  simp only [Option.bind_eq_bind, Option.bind_some, hnone, List.drop_zero, hoperator, if_true,
    hgap]
  split_ifs with hplain
  · rw [hplain.plain?_append stops_percent]
    simp [percentageOf]
    omega
  · rw [plain?_append stops_percent]
    cases hfound : plain? share with
    | none => rfl
    | some found =>
        obtain ⟨number, behindNumber⟩ := found
        have hhead := hshare.head_behind_plain hfound
        cases behindNumber with
        | nil => exact absurd rfl (ne_nil_of_not_plain hplain hfound)
        | cons c rest => simp [(hhead c rfl).2.2.2]

theorem percentOfBase_operator (hoperator : operator = '+' ∨ operator = '-') (rest : List Char) :
    percentOfBase previous (operator :: rest) = none :=
  percentOfBase_of_not_isDigit (isBlank_operator hoperator).2

/-- The first pass takes the percentage of the longest plain number before the operator. -/
theorem replaceAll_percentOfBase (hlike : NumberLike text) (hshare : PlainNumber share)
    (hoperator : operator = '+' ∨ operator = '-') :
    replaceAll percentOfBase previous (percentage text operator share) =
      match percentBase? text with
      | some base => text ++ percentageOf base operator share
      | none => percentage text operator share := by
  have hlike' : NumberLike share := numberLike_of_numeric hshare.mem
  induction text generalizing previous with
  | nil =>
      rw [percentage, List.nil_append, replaceAll_cons_of_none (percentOfBase_operator hoperator _),
        replaceAll_percentOfBase_share hlike']
      rfl
  | cons c rest ih =>
      by_cases hplain : PlainNumber (c :: rest)
      · have hmatch := @percentOfBase_percentage previous _ _ _ hplain hlike' hoperator
        rw [if_pos hshare] at hmatch
        have happend := @replaceAll_append_of_some percentOfBase previous
          (percentage (c :: rest) operator share) [] _ (by simp [percentage])
          (by simpa using hmatch)
        rw [List.append_nil, replaceAll_nil, List.append_nil] at happend
        rw [happend, percentBase?_of_plain hplain]
        rfl
      · have hnone : percentOfBase previous (c :: percentage rest operator share) = none :=
          percentOfBase_not_plain hlike hplain (stops_operator hoperator _)
        rw [percentage_cons, replaceAll_cons_of_none hnone, ih hlike.tail, percentBase?,
          if_neg hplain]
        cases percentBase? rest <;> rfl

/-- A share that is no plain number is the percentage of nothing. -/
theorem replaceAll_percentOfBase_not_plain (hlike : NumberLike text) (hshare : NumberLike share)
    (h : ¬ PlainNumber share) (hoperator : operator = '+' ∨ operator = '-') :
    replaceAll percentOfBase previous (percentage text operator share) =
      percentage text operator share := by
  induction text generalizing previous with
  | nil =>
      rw [percentage, List.nil_append, replaceAll_cons_of_none (percentOfBase_operator hoperator _),
        replaceAll_percentOfBase_share hshare]
  | cons c rest ih =>
      have hnone : percentOfBase previous (percentage (c :: rest) operator share) = none := by
        by_cases hplain : PlainNumber (c :: rest)
        · rw [percentOfBase_percentage hplain hshare hoperator, if_neg h]
        · exact percentOfBase_not_plain hlike hplain (stops_operator hoperator _)
      rw [percentage_cons] at hnone ⊢
      rw [replaceAll_cons_of_none hnone, ih hlike.tail]

/-- The second pass leaves a number alone that an operator stands behind. -/
theorem replaceAll_barePercent (hlike : NumberLike text) (hshare : NumberLike share)
    (hoperator : operator = '+' ∨ operator = '-') :
    replaceAll barePercent previous (percentage text operator share) =
      text ++ operator :: hundredths share := by
  induction text generalizing previous with
  | nil =>
      rw [percentage, List.nil_append, replaceAll_cons_of_none
        (barePercent_of_not_isDigit (isBlank_operator hoperator).2),
        replaceAll_barePercent_share hshare]
      rfl
  | cons c rest ih =>
      have hnone : barePercent previous (percentage (c :: rest) operator share) = none := by
        by_cases hplain : PlainNumber (c :: rest)
        · refine barePercent_of_behind (hplain.plain?_append (stops_operator hoperator _)) ?_
          rintro d ⟨⟩ rfl
          simp at hoperator
        · exact barePercent_not_plain hlike hplain (stops_operator hoperator _)
      rw [percentage_cons] at hnone ⊢
      rw [replaceAll_cons_of_none hnone, ih hlike.tail, List.cons_append]

end

/-! ## The pass for `e` -/

theorem not_mem_numeric {text : List Char} (htext : IsNumeric text) {c : Char}
    (hc : isDigit c = false ∧ c ≠ '.') : c ∉ text := by
  intro hmem
  rcases htext c hmem with hdigit | hpoint
  · rw [hc.1] at hdigit
    cases hdigit
  · exact hc.2 hpoint

/-- The pass may write the other mark of an exponent. -/
theorem replaceAll_eulerSign_mark {before rest : List Char} {mark : Char} (hbefore : 'e' ∉ before)
    (hmark : mark = 'e' ∨ mark = 'E') (hrest : 'e' ∉ rest) (previous : Option Char) :
    ∃ written, (written = 'e' ∨ written = 'E') ∧
      replaceAll eulerSign previous (before ++ mark :: rest) = before ++ written :: rest := by
  have hstays := fun before => replacesSign_eulerSign.needs.replaceAll_eq hrest before
  have hfirst : replaceAll eulerSign previous (before ++ mark :: rest) =
      before ++ replaceAll eulerSign (behind previous before) (mark :: rest) := by
    refine replaceAll_append_of_forall fun c hc _ _ => eulerSign_of_ne ?_
    rintro rfl
    exact hbefore hc
  rw [hfirst]
  cases hfound : eulerSign (behind previous before) (mark :: rest) with
  | none =>
      rw [replaceAll_cons_of_none hfound, hstays]
      exact ⟨mark, hmark, rfl⟩
  | some found =>
      obtain ⟨length, replacement⟩ := found
      obtain ⟨others, hothers, rfl, rfl⟩ := replacesSign_eulerSign _ _ _ _ hfound
      obtain ⟨rfl, rfl⟩ := List.cons.inj hothers
      have happend := @replaceAll_append_of_some eulerSign (behind previous before) ['e'] rest ['E']
        (by simp) hfound
      rw [List.singleton_append] at happend
      rw [happend, hstays]
      exact ⟨'E', .inr rfl, rfl⟩

/-- A number is the same number behind this pass. -/
theorem shape_replaceAll_eulerSign {text : List Char} (h : Shape text) (previous : Option Char) :
    Shape (replaceAll eulerSign previous text) ∧
      Decimal.read (replaceAll eulerSign previous text) = Decimal.read text := by
  cases h with
  | mantissa is =>
      have hnone := not_mem_numeric is.numeric (c := 'e') (by decide)
      rw [replacesSign_eulerSign.needs.replaceAll_eq hnone]
      exact ⟨.mantissa is, rfl⟩
  | @scientific mantissa exponent is has =>
      cases has with
      | @of mark sign run hmark hsign hne hdigits =>
          have hbefore := not_mem_numeric is.numeric (c := 'e') (by decide)
          have hrest : 'e' ∉ sign ++ run := by
            have hrun : 'e' ∉ run :=
              not_mem_numeric (fun c hc => .inl (hdigits c hc)) (by decide)
            rcases hsign with rfl | rfl | rfl <;> simpa using hrun
          obtain ⟨written, hwritten, hpass⟩ :=
            replaceAll_eulerSign_mark hbefore hmark hrest previous
          rw [hpass]
          exact ⟨.scientific is (.of hwritten hsign hne hdigits), read_mark is hwritten hmark⟩

/-! ## The canonical form -/

theorem plainNumber_of_percentBase? {text base : List Char} (h : percentBase? text = some base) :
    PlainNumber base := by
  induction text with
  | nil => cases h
  | cons c rest ih =>
      rw [percentBase?] at h
      split_ifs at h with hplain
      · cases h
        exact hplain
      · exact ih h

/-- What the passes for percentages write behind the number before the operator. -/
def writtenBehind (base? : Option (List Char)) (operator : Char) (share : List Char) : List Char :=
  match base? with
  | some base => percentageOf base operator share
  | none => operator :: hundredths share

/-- What the share is taken of: nothing if it is no plain number. -/
def baseOf? (text share : List Char) : Option (List Char) :=
  if PlainNumber share then percentBase? text else none

section

variable {text share : List Char} {operator : Char}

private theorem withoutPercentages_share (hshare : NumberLike share) :
    withoutPercentages (share ++ ['%']) = hundredths share := by
  rw [withoutPercentages, replaceAll_percentOfBase_share hshare,
    replaceAll_barePercent_share hshare]

private theorem withoutPercentages_percentage (hlike : NumberLike text) (hshare : NumberLike share)
    (hoperator : operator = '+' ∨ operator = '-') :
    withoutPercentages (percentage text operator share) =
      text ++ writtenBehind (baseOf? text share) operator share := by
  have hbare := @replaceAll_barePercent none _ _ _ hlike hshare hoperator
  by_cases hplain : PlainNumber share
  · rw [withoutPercentages, replaceAll_percentOfBase hlike hplain hoperator, baseOf?, if_pos hplain]
    cases hbase : percentBase? text with
    | none => exact hbare
    | some base =>
        refine needs_barePercent.replaceAll_eq ?_ none
        have hpercent : isNumeral '%' = false := by decide
        have hbase' := numberLike_of_numeric (plainNumber_of_percentBase? hbase).mem
        have hoperator' : '%' ≠ operator := by
          rintro rfl
          simp at hoperator
        simp [percentageOf, hoperator', hlike.not_mem hpercent, hshare.not_mem hpercent,
          hbase'.not_mem hpercent]
  · rw [withoutPercentages, replaceAll_percentOfBase_not_plain hlike hshare hplain hoperator, hbare,
      baseOf?, if_neg hplain]
    rfl

/-- The characters that these passes write. -/
def isWritten (c : Char) : Bool :=
  isNumeral c || c ∈ [' ', '(', ')', '*', '/', '%']

theorem isWritten_of_like (hlike : NumberLike text) : ∀ c ∈ text, isWritten c = true := by
  intro c hc
  simp [isWritten, hlike.mem c hc]

theorem isWritten_literals :
    ∀ text ∈ ["/100)", " (", " * ", " / 100)"], ∀ c ∈ text.toList, isWritten c = true := by
  have hall : [['/', '1', '0', '0', ')'], [' ', '('], [' ', '*', ' '],
      [' ', '/', ' ', '1', '0', '0', ')']].all (fun text => text.all isWritten) = true := by
    decide
  simpa using hall

theorem isWritten_hundredths (hshare : NumberLike share) :
    ∀ c ∈ hundredths share, isWritten c = true := by
  have hclosing := isWritten_literals "/100)" (by simp)
  induction share with
  | nil => exact fun c hc => by rw [List.mem_singleton.1 hc]; decide
  | cons d rest ih =>
      rw [hundredths]
      split_ifs with hplain
      · rw [List.cons_append]
        exact List.forall_mem_cons.2 ⟨by decide,
          List.forall_mem_append.2 ⟨isWritten_of_like hshare, hclosing⟩⟩
      · exact List.forall_mem_cons.2
          ⟨isWritten_of_like hshare d List.mem_cons_self, ih hshare.tail⟩

private theorem isWritten_writtenBehind (hshare : NumberLike share)
    (hoperator : operator = '+' ∨ operator = '-') :
    ∀ c ∈ writtenBehind (baseOf? text share) operator share, isWritten c = true := by
  have hsign : isWritten operator = true := by
    rcases hoperator with rfl | rfl <;> decide
  cases hbase : baseOf? text share with
  | none => exact List.forall_mem_cons.2 ⟨hsign, isWritten_hundredths hshare⟩
  | some base =>
      have hplain : PlainNumber base := by
        rw [baseOf?] at hbase
        split_ifs at hbase
        exact plainNumber_of_percentBase? hbase
      have hbase' := isWritten_of_like (numberLike_of_numeric hplain.mem)
      have hopening := isWritten_literals " (" (by simp)
      have hmiddle := isWritten_literals " * " (by simp)
      have hclosing := isWritten_literals " / 100)" (by simp)
      simp only [writtenBehind, percentageOf, List.cons_append, List.forall_mem_cons,
        List.forall_mem_append]
      exact ⟨hopening ' ' (by decide), hsign,
        ⟨⟨⟨hopening, hbase'⟩, hmiddle⟩, isWritten_of_like hshare⟩, hclosing⟩

private theorem not_isWritten_of_mem_signs {c : Char} (hc : c ∈ ['π', '^', '!']) :
    isWritten c = false := by
  have hall : ['π', '^', '!'].all (fun c => !isWritten c) = true := by decide
  simpa using List.all_eq_true.1 hall c hc

theorem canonical_of_isWritten {entry written : List Char}
    (hentry : withoutPercentages entry = written) (h : ∀ c ∈ written, isWritten c = true) :
    canonical entry = replaceAll eulerSign none written := by
  subst hentry
  refine canonical_eq_replaceAll_eulerSign fun c hmem hc => ?_
  have hnot := not_isWritten_of_mem_signs hc
  rw [h c hmem] at hnot
  cases hnot

theorem canonical_share (hshare : NumberLike share) :
    canonical (share ++ ['%']) = replaceAll eulerSign none (hundredths share) :=
  canonical_of_isWritten (withoutPercentages_share hshare) (isWritten_hundredths hshare)

theorem canonical_percentage (hlike : NumberLike text) (hshare : NumberLike share)
    (hoperator : operator = '+' ∨ operator = '-') :
    canonical (percentage text operator share) = replaceAll eulerSign none text ++
      replaceAll eulerSign (behind none text)
        (writtenBehind (baseOf? text share) operator share) := by
  have hhead : ∀ c ∈ (writtenBehind (baseOf? text share) operator share).head?,
      isWord c = false := by
    cases baseOf? text share with
    | none =>
        rintro c ⟨⟩
        rcases hoperator with rfl | rfl <;> decide
    | some base =>
        rintro c ⟨⟩
        decide
  rw [canonical_of_isWritten (withoutPercentages_percentage hlike hshare hoperator),
    (local_eulerSign hhead).replaceAll_append quiet_eulerSign]
  exact List.forall_mem_append.2
    ⟨isWritten_of_like hlike, isWritten_writtenBehind hshare hoperator⟩

end

end DeskCalculator.Entry
