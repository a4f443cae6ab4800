import DeskCalculator.Proofs.Entry.Percentages

/-!
# The canonical form is a normal form

In a text in canonical form there is nothing left to rewrite (`isNormal_canonical`), so
it is its own canonical form (`IsNormal.canonical_eq`).

## Strategy

Each pass leaves nothing behind that its own rule looks for, and nothing that a later
rule writes brings any of it back.

* A single sign is gone when no rule writes it (`Omits.not_mem_replaceAll`).
* A percent sign or a factorial sign directly behind a digit is a condition on two
  neighbours.  Each later match is replaced by a text without that sign which does not
  end in a digit (`Shields`).
* A lone `e` is a condition on a character and both its neighbours.  A rule may put another
  character beside an `e`, but no word character gives way to anything else
  (`KeepsWords`).
-/

namespace DeskCalculator.Entry

open Text Surface Token

/-! ## Normal texts -/

/-- Whether no decimal digit stands directly before this sign. -/
def Detached (sign : Char) (text : List Char) : Prop :=
  text.IsChain fun c d => d = sign → isDigit c = false

/-- Whether a word character adjoins the place between `previous` and a text. -/
def Adjoined (previous : Option Char) (rest : List Char) : Prop :=
  previous.any isWord = true ∨ rest.head?.any isWord = true

/-- Whether every `e` in a text that the character `previous` comes before adjoins a word
character. -/
def NoLoneEuler (previous : Option Char) (text : List Char) : Prop :=
  ∀ before after, text = before ++ 'e' :: after → Adjoined (behind previous before) after

/-- Whether there is nothing in a text that a rule of the canonical form looks for. -/
structure IsNormal (text : List Char) : Prop where
  circle : 'π' ∉ text
  power : '^' ∉ text
  percent : Detached '%' text
  factorial : Detached '!' text
  euler : NoLoneEuler none text

/-! ## Characters -/

theorem IsPlain.not_mem {number : List Char} (h : IsPlain number) {c : Char}
    (hc : isDigit c = false ∧ c ≠ '.') : c ∉ number :=
  not_mem_numeric h.mem hc

/-- The factorial of a number is written with a minus, digits, points and the name. -/
theorem omits_factorialSign {c : Char} (hc : isDigit c = false ∧ c ≠ '.')
    (hwritten : c ∉ "factorial(-)".toList) : Omits factorialSign c := by
  intro previous text length replacement h
  obtain ⟨sign, operand, rest, -, -, rfl, hsign, hoperand⟩ := factorialSign_eq_some h
  have hminus : c ∉ sign := fun hmem => hwritten (hsign c hmem ▸ by decide)
  have hnone := hoperand.not_mem hc
  simp_all

/-! ## Signs behind digits -/

section

variable {rule : Rule} {sign : Char} {previous : Option Char} {text : List Char}

/-- Whether what a rule writes neither has this sign in it nor ends in a digit. -/
def Shields (rule : Rule) (sign : Char) : Prop :=
  ∀ previous text length replacement, rule previous text = some (length, replacement) →
    sign ∉ replacement ∧ ∃ c ∈ replacement.getLast?, isDigit c = false

private theorem detached_of_not_mem (h : sign ∉ text) : Detached sign text :=
  isChain_of_forall fun _ hd _ hsign => absurd (hsign ▸ hd) h

/-- The first character that a pass leaves is no new sign. -/
theorem Shields.head_replaceAll (shields : Shields rule sign)
    (h : sign ∈ (replaceAll rule previous text).head?) : sign ∈ text.head? := by
  cases text with
  | nil =>
      rw [replaceAll_nil] at h
      cases h
  | cons c rest =>
      cases hfound : rule previous (c :: rest) with
      | none =>
          rw [replaceAll_cons_of_none hfound] at h
          exact h
      | some found =>
          obtain ⟨length, replacement⟩ := found
          obtain ⟨hsign, d, hd, -⟩ := shields _ _ _ _ hfound
          have hne : replacement ≠ [] := by
            rintro rfl
            cases hd
          rw [replaceAll, hfound, List.head?_append_of_ne_nil _ hne] at h
          exact absurd (List.mem_of_head? h) hsign

/-- Behind a pass the sign is detached if it is where the rule finds nothing. -/
theorem Shields.detached_replaceAll (shields : Shields rule sign)
    (h : ∀ before c after, c :: sign :: after <:+ text → rule before (c :: sign :: after) = none →
      isDigit c = false) :
    Detached sign (replaceAll rule previous text) := by
  fun_induction replaceAll rule previous text with
  | case1 previous => exact .nil
  | case2 previous c rest length replacement hfound ih =>
      obtain ⟨hsign, last, hlast, hdigit⟩ := shields _ _ _ _ hfound
      have hlater := ih fun before d after hsuffix =>
        h before d after (hsuffix.trans ((List.drop_suffix _ _).trans (List.suffix_cons c rest)))
      refine (detached_of_not_mem hsign).append hlater ?_
      intro d hd _ _ _
      rw [Option.mem_unique hd hlast, hdigit]
  | case3 previous c rest hnone ih =>
      have hlater := ih fun before d after hsuffix =>
        h before d after (hsuffix.trans (List.suffix_cons c rest))
      refine hlater.cons ?_
      rintro d hd rfl
      -- the sign stood there before the pass
      obtain ⟨after, rfl⟩ := List.head?_eq_some_iff.1 (shields.head_replaceAll hd)
      exact h previous c after List.suffix_rfl hnone

/-- A pass keeps a sign detached. -/
theorem Shields.keeps (shields : Shields rule sign) (h : Detached sign text) :
    Detached sign (replaceAll rule previous text) :=
  shields.detached_replaceAll fun _ _ _ hsuffix _ =>
    (List.isChain_cons_cons.1 (h.suffix hsuffix)).1 rfl

end

theorem EndsIn.shields {rule : Rule} {sign closing other : Char}
    (ends : EndsIn rule sign closing) (omits : Omits rule other) (h : isDigit closing = false) :
    Shields rule other :=
  fun _ _ _ _ hfound => ⟨omits _ _ _ _ hfound, closing, (ends _ _ _ _ hfound).2, h⟩

private theorem omits_barePercent : Omits barePercent '%' := by
  intro previous text length replacement h
  obtain ⟨share, rest, -, -, rfl, hshare⟩ := barePercent_eq_some h
  have hnone := hshare.not_mem (c := '%') (by decide)
  simpa using hnone

/-- Behind the pass for percentages no percent sign stands directly behind a digit. -/
theorem detached_percent (previous : Option Char) (text : List Char) :
    Detached '%' (replaceAll barePercent previous text) := by
  have shields : Shields barePercent '%' := endsIn_barePercent.shields omits_barePercent (by decide)
  refine shields.detached_replaceAll fun before c after _ hnone => ?_
  by_contra hdigit
  have hplain : PlainNumber [c] :=
    plainNumber_of_digits (List.cons_ne_nil c []) (by simpa using hdigit)
  have hfound := @barePercent_percent before _ hplain after
  rw [List.singleton_append, hnone] at hfound
  cases hfound

/-- Behind the last pass no factorial sign does. -/
theorem detached_factorial (previous : Option Char) (text : List Char) :
    Detached '!' (replaceAll factorialSign previous text) := by
  have shields : Shields factorialSign '!' :=
    endsIn_factorialSign.shields (omits_factorialSign (by decide) (by decide)) (by decide)
  refine shields.detached_replaceAll fun before c after _ hnone => ?_
  by_contra hdigit
  have hplain : PlainNumber [c] :=
    plainNumber_of_digits (List.cons_ne_nil c []) (by simpa using hdigit)
  have hminus : ∀ d ∈ (c :: '!' :: after).head?, d ≠ '-' := by
    rintro d ⟨⟩ rfl
    exact hdigit (by decide)
  have hfound : plain? (c :: '!' :: after) = some ([c], '!' :: after) :=
    hplain.plain?_append stops_exclamation
  rw [factorialSign_of_ne hminus, hfound] at hnone
  cases hnone

/-! ## The lone `e` -/

/-- Whether a rule writes a word character at either end wherever it replaces one there, and no
`e`. -/
structure KeepsWords (rule : Rule) : Prop where
  omits : Omits rule 'e'
  head : ∀ previous text length replacement, rule previous text = some (length, replacement) →
    ∃ c ∈ replacement.head?, text.head?.any isWord = true → isWord c = true
  last : ∀ previous text length replacement, rule previous text = some (length, replacement) →
    (text.take length).getLast?.any isWord = true → replacement.getLast?.any isWord = true

section

variable {rule : Rule} {previous before : Option Char} {text : List Char}

theorem noLoneEuler_cons {c : Char} {rest : List Char} :
    NoLoneEuler previous (c :: rest) ↔
      (c = 'e' → Adjoined previous rest) ∧ NoLoneEuler (some c) rest := by
  constructor
  · intro h
    refine ⟨?_, fun before after hsplit => ?_⟩
    · rintro rfl
      exact h [] rest rfl
    · have hlater := h (c :: before) after (by rw [hsplit, List.cons_append])
      rwa [behind_cons] at hlater
  · rintro ⟨hfirst, hlater⟩ before after hsplit
    cases before with
    | nil =>
        obtain ⟨rfl, rfl⟩ := List.cons.inj hsplit
        exact hfirst rfl
    | cons d before =>
        obtain ⟨rfl, hrest⟩ := List.cons.inj hsplit
        rw [behind_cons]
        exact hlater before after hrest

private theorem noLoneEuler_append {first second : List Char} (hfirst : 'e' ∉ first)
    (hsecond : NoLoneEuler (behind previous first) second) :
    NoLoneEuler previous (first ++ second) := by
  induction first generalizing previous with
  | nil => exact hsecond
  | cons c rest ih =>
      rw [List.mem_cons, not_or] at hfirst
      rw [behind_cons] at hsecond
      rw [List.cons_append, noLoneEuler_cons]
      exact ⟨fun hc => absurd hc.symm hfirst.1, ih hfirst.2 hsecond⟩

theorem KeepsWords.head_replaceAll (keeps : KeepsWords rule)
    (h : text.head?.any isWord = true) :
    (replaceAll rule previous text).head?.any isWord = true := by
  cases text with
  | nil => cases h
  | cons c rest =>
      cases hfound : rule previous (c :: rest) with
      | none =>
          rw [replaceAll_cons_of_none hfound]
          exact h
      | some found =>
          obtain ⟨length, replacement⟩ := found
          obtain ⟨d, hd, hword⟩ := keeps.head _ _ _ _ hfound
          obtain ⟨more, rfl⟩ := List.head?_eq_some_iff.1 hd
          rw [replaceAll, hfound]
          exact hword h

/-- Behind a pass no `e` is alone if none was where the rule finds nothing.  The text may stand
behind another character now. -/
theorem KeepsWords.noLoneEuler_replaceAll (keeps : KeepsWords rule) (quiet : Quiet rule)
    (h : ∀ start rest, text = start ++ 'e' :: rest →
      rule (behind previous start) ('e' :: rest) = none → Adjoined (behind previous start) rest)
    (hbefore : previous.any isWord = true → before.any isWord = true) :
    NoLoneEuler before (replaceAll rule previous text) := by
  fun_induction replaceAll rule previous text generalizing before with
  | case1 previous =>
      intro start rest hsplit
      simp at hsplit
  | case2 previous c rest length replacement hfound ih =>
      obtain ⟨stretch, others, htext, hlength, hreplaces, hothers⟩ := quiet.match_eq hfound
      have hne := hreplaces.found.ne_nil
      have hlast := keeps.last _ _ _ _ hfound
      rw [hothers, htext, hlength, List.take_left] at ih
      rw [htext, hlength, List.take_left] at hlast
      rw [hothers, htext, hlength, List.take_left]
      refine noLoneEuler_append (keeps.omits _ _ _ _ hfound) (ih ?_ ?_)
      · intro start after hsplit hnone
        have hwhole := h (stretch ++ start) after (by rw [htext, hsplit, List.append_assoc])
        rw [behind_append, behind_of_ne_nil hne] at hwhole
        exact hwhole hnone
      · rw [behind_of_ne_nil hreplaces.written.ne_nil]
        exact hlast
  | case3 previous c rest hnone ih =>
      rw [noLoneEuler_cons]
      refine ⟨?_, ih ?_ id⟩
      · rintro rfl
        exact (h [] rest rfl hnone).imp hbefore keeps.head_replaceAll
      · intro start after hsplit hfree
        have hwhole := h (c :: start) after (by rw [hsplit, List.cons_append])
        rw [behind_cons] at hwhole
        exact hwhole hfree

/-- A pass leaves no `e` alone. -/
theorem KeepsWords.keeps (keeps : KeepsWords rule) (quiet : Quiet rule)
    (h : NoLoneEuler previous text) : NoLoneEuler previous (replaceAll rule previous text) :=
  keeps.noLoneEuler_replaceAll quiet (fun start rest hsplit _ => h start rest hsplit) id

end

theorem ReplacesSign.keepsWords {rule : Rule} {sign c : Char} {rest : List Char}
    (hfound : ReplacesSign rule sign (c :: rest)) (homits : 'e' ∉ c :: rest)
    (hword : isWord sign = true → isWord c = true ∧ (c :: rest).getLast?.any isWord = true) :
    KeepsWords rule where
  omits := hfound.omits homits
  head previous text length replacement h := by
    obtain ⟨others, rfl, -, rfl⟩ := hfound _ _ _ _ h
    exact ⟨c, rfl, fun hsign => (hword hsign).1⟩
  last previous text length replacement h := by
    obtain ⟨others, rfl, rfl, rfl⟩ := hfound _ _ _ _ h
    rw [List.take_left]
    exact fun hsign => (hword hsign).2

theorem keepsWords_eulerSign : KeepsWords eulerSign :=
  replacesSign_eulerSign.keepsWords (by decide) fun _ => by decide

theorem keepsWords_powerSign : KeepsWords powerSign :=
  replacesSign_powerSign.keepsWords (by decide) fun h => absurd h (by decide)

theorem keepsWords_factorialSign : KeepsWords factorialSign where
  omits := omits_factorialSign (by decide) (by decide)
  head previous text length replacement h := by
    obtain ⟨minus, operand, rest, -, -, rfl, -⟩ := factorialSign_eq_some h
    exact ⟨'f', rfl, fun _ => by decide⟩
  last previous text length replacement h hword := by
    rw [(endsIn_factorialSign _ _ _ _ h).1] at hword
    exact absurd hword (by decide)

/-- Behind its pass no `e` is alone. -/
theorem noLoneEuler_eulerSign (previous : Option Char) (text : List Char) :
    NoLoneEuler previous (replaceAll eulerSign previous text) := by
  refine keepsWords_eulerSign.noLoneEuler_replaceAll quiet_eulerSign ?_ id
  intro start rest _ hnone
  by_contra hlone
  rw [Adjoined, not_or] at hlone
  simp [eulerSign, hlone] at hnone

/-! ## The canonical form is normal -/

/-- The passes for the circle number and for powers leave none of their signs. -/
theorem not_mem_circleSign (previous : Option Char) (text : List Char) :
    'π' ∉ replaceAll circleSign previous text := by
  have homits : Omits circleSign 'π' := replacesSign_circleSign.omits (by decide)
  exact homits.not_mem_replaceAll (fun _ _ _ => Option.some_ne_none _) previous

private theorem not_mem_powerSign (previous : Option Char) (text : List Char) :
    '^' ∉ replaceAll powerSign previous text := by
  have homits : Omits powerSign '^' := replacesSign_powerSign.omits (by decide)
  exact homits.not_mem_replaceAll (fun _ _ _ => Option.some_ne_none _) previous

/-- There is nothing left to rewrite in the canonical form of an entry. -/
theorem isNormal_canonical (entry : List Char) : IsNormal (canonical entry) where
  circle :=
    (omits_factorialSign (by decide) (by decide)).keeps
      ((replacesSign_powerSign.omits (by decide)).keeps
        ((replacesSign_eulerSign.omits (by decide)).keeps (not_mem_circleSign none _) none)
        none) none
  power := (omits_factorialSign (by decide) (by decide)).keeps (not_mem_powerSign none _) none
  percent := by
    have hcircle : Shields circleSign '%' :=
      endsIn_circleSign.shields (replacesSign_circleSign.omits (by decide)) (by decide)
    have heuler : Shields eulerSign '%' :=
      endsIn_eulerSign.shields (replacesSign_eulerSign.omits (by decide)) (by decide)
    have hpower : Shields powerSign '%' :=
      endsIn_powerSign.shields (replacesSign_powerSign.omits (by decide)) (by decide)
    have hfactorial : Shields factorialSign '%' :=
      endsIn_factorialSign.shields (omits_factorialSign (by decide) (by decide)) (by decide)
    exact hfactorial.keeps <| hpower.keeps <| heuler.keeps <| hcircle.keeps <|
      detached_percent none _
  factorial := detached_factorial none _
  euler :=
    keepsWords_factorialSign.keeps quiet_factorialSign <|
      keepsWords_powerSign.keeps quiet_powerSign (noLoneEuler_eulerSign none _)

/-! ## Normal texts are left alone -/

/-- A pass in which the rule finds nothing leaves the text as it is. -/
theorem replaceAll_eq_self {rule : Rule} {previous : Option Char} {text : List Char}
    (h : ∀ before c after, text = before ++ c :: after →
      rule (behind previous before) (c :: after) = none) :
    replaceAll rule previous text = text := by
  have hstays := @replaceAll_append_of_none rule text [] previous
    fun before c after hsplit => by rw [List.append_nil]; exact h before c after hsplit
  rwa [replaceAll_nil, List.append_nil] at hstays

/-- A run of digits ends in a digit. -/
theorem exists_digit_of_digitRun {text : List Char} (h : digitRun text ≠ 0) :
    ∃ c ∈ (text.take (digitRun text)).getLast?, isDigit c = true := by
  have hne : text.take (digitRun text) ≠ [] := by
    intro hnil
    rcases List.take_eq_nil_iff.1 hnil with hzero | rfl
    · exact h hzero
    · exact h rfl
  exact ⟨_, List.getLast?_eq_some_getLast hne, isDigit_of_mem_take_digitRun (List.getLast_mem hne)⟩

/-- A plain number ends in a digit. -/
theorem exists_digit_of_plainLength {text : List Char} (h : plainLength text ≠ 0) :
    ∃ c ∈ (text.take (plainLength text)).getLast?, isDigit c = true := by
  unfold plainLength at h ⊢
  simp only at h ⊢
  split at h
  · exact absurd rfl h
  next hwhole =>
    rw [if_neg hwhole]
    split
    · next fraction hbehind =>
        split
        · exact exists_digit_of_digitRun hwhole
        · next hfraction =>
            obtain ⟨c, hc, hdigit⟩ := exists_digit_of_digitRun hfraction
            have hne : fraction.take (digitRun fraction) ≠ [] := by
              intro hnil
              rw [hnil] at hc
              cases hc
            rw [take_point hbehind, List.append_cons, List.getLast?_append_of_ne_nil _ hne]
            exact ⟨c, hc, hdigit⟩
    · exact exists_digit_of_digitRun hwhole

section

variable {sign : Char} {previous : Option Char} {text : List Char}

/-- A detached sign does not stand directly behind a plain number. -/
theorem Detached.ne_of_plain (h : Detached sign text) {number rest : List Char}
    (hplain : plain? text = some (number, rest)) : ∀ c ∈ rest.head?, c ≠ sign := by
  obtain ⟨rfl, -⟩ := plain?_eq_some hplain
  have hlength : plainLength (number ++ rest) ≠ 0 := by
    intro hzero
    simp [plain?, hzero] at hplain
  rw [plain?, if_neg hlength, Option.some.injEq, Prod.mk.injEq] at hplain
  obtain ⟨d, hd, hdigit⟩ := exists_digit_of_plainLength hlength
  rw [hplain.1] at hd
  rintro c hc rfl
  rw [(List.isChain_append.1 h).2.2 d hd c hc rfl] at hdigit
  cases hdigit

theorem Detached.barePercent_eq_none (h : Detached '%' text) :
    barePercent previous text = none := by
  cases hplain : plain? text with
  | none =>
      rw [barePercent, hplain]
      rfl
  | some found => exact barePercent_of_behind hplain (h.ne_of_plain hplain)

theorem Detached.percentOfBase_eq_none (h : Detached '%' text) :
    percentOfBase previous text = none := by
  cases hbase : plain? text with
  | none =>
      rw [percentOfBase, hbase]
      rfl
  | some found =>
      obtain ⟨base, behindBase⟩ := found
      obtain ⟨rfl, -⟩ := plain?_eq_some hbase
      simp only [percentOfBase, hbase, Option.bind_eq_bind, Option.bind_some]
      split
      · next operator behindOperator hoperator =>
          have hsuffix : behindOperator.drop (blankRun behindOperator) <:+ base ++ behindBase :=
            (List.drop_suffix _ _).trans <| (List.suffix_cons operator _).trans <|
              hoperator ▸ (List.drop_suffix _ _).trans (List.suffix_append base behindBase)
          split
          · cases hshare : plain? (behindOperator.drop (blankRun behindOperator)) with
            | none => rfl
            | some found =>
                have hne := Detached.ne_of_plain (h.suffix hsuffix) hshare
                simp only [Option.bind_some]
                split
                · next heq => exact absurd rfl (hne '%' (by rw [heq]; rfl))
                · rfl
          · rfl
      · rfl

/-- Neither with a minus before the number nor without. -/
theorem Detached.factorialSign_eq_none (h : Detached '!' text) :
    factorialSign previous text = none := by
  unfold factorialSign
  split
  next signs number hnumber =>
    have hsuffix : number <:+ text := by
      split at hnumber
      · split at hnumber
        · cases hnumber
          exact List.suffix_rfl
        · cases hnumber
          exact List.suffix_cons _ _
      · cases hnumber
        exact List.suffix_rfl
    cases hplain : plain? number with
    | none => rfl
    | some found =>
        obtain ⟨operand, behind⟩ := found
        have hne := Detached.ne_of_plain (h.suffix hsuffix) hplain
        simp only [Option.bind_eq_bind, Option.bind_some]
        split
        · exact absurd rfl (hne '!' rfl)
        · rfl

theorem NoLoneEuler.eulerSign_eq_none {c : Char} {rest : List Char}
    (h : c = 'e' → Adjoined previous rest) : eulerSign previous (c :: rest) = none := by
  by_cases hc : c = 'e'
  · subst hc
    exact if_pos (h rfl)
  · exact eulerSign_of_ne hc

end

/-- Nothing is rewritten in a normal text. -/
theorem IsNormal.canonical_eq {text : List Char} (h : IsNormal text) : canonical text = text := by
  have hsuffix : ∀ before c after, text = before ++ c :: after → c :: after <:+ text :=
    fun before c after hsplit => ⟨before, hsplit.symm⟩
  have hbase : replaceAll percentOfBase none text = text :=
    replaceAll_eq_self fun before c after hsplit =>
      Detached.percentOfBase_eq_none (h.percent.suffix (hsuffix before c after hsplit))
  have hbare : replaceAll barePercent none text = text :=
    replaceAll_eq_self fun before c after hsplit =>
      Detached.barePercent_eq_none (h.percent.suffix (hsuffix before c after hsplit))
  have heuler : replaceAll eulerSign none text = text :=
    replaceAll_eq_self fun before c after hsplit =>
      NoLoneEuler.eulerSign_eq_none fun hc => h.euler before after (hc ▸ hsplit)
  have hfactorial : replaceAll factorialSign none text = text :=
    replaceAll_eq_self fun before c after hsplit =>
      Detached.factorialSign_eq_none (h.factorial.suffix (hsuffix before c after hsplit))
  rw [canonical, withoutPercentages, hbase, hbare,
    replacesSign_circleSign.needs.replaceAll_eq h.circle, heuler,
    replacesSign_powerSign.needs.replaceAll_eq h.power, hfactorial]

/-- The canonical form of any entry has no circle number and no power sign in it, no percent sign
and no factorial sign directly behind a digit, and no `e` without a word character beside it; and it
is its own canonical form. -/
theorem canonical_is_normal (entry : List Char) :
    ('π' ∉ canonical entry ∧ '^' ∉ canonical entry ∧
      (∀ before digit sign after, canonical entry = before ++ digit :: sign :: after →
        sign = '%' ∨ sign = '!' → isDigit digit = false) ∧
      ∀ before after, canonical entry = before ++ 'e' :: after →
        before.getLast?.any isWord = true ∨ after.head?.any isWord = true) ∧
    canonical (canonical entry) = canonical entry := by
  have hnormal := isNormal_canonical entry
  refine ⟨⟨hnormal.circle, hnormal.power, ?_, ?_⟩, hnormal.canonical_eq⟩
  · rintro before digit sign after hsplit (rfl | rfl)
    · have hpercent := hnormal.percent
      rw [hsplit] at hpercent
      exact (List.isChain_append_cons_cons.1 hpercent).2.1 rfl
    · have hfactorial := hnormal.factorial
      rw [hsplit] at hfactorial
      exact (List.isChain_append_cons_cons.1 hfactorial).2.1 rfl
  · intro before after hsplit
    have heuler := hnormal.euler before after hsplit
    rwa [Adjoined, behind, Option.or_none] at heuler

end DeskCalculator.Entry
