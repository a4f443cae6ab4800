import DeskCalculator.Proofs.Keypad.Run
import DeskCalculator.Proofs.Result.ReadBack

/-!
# Operators and points of an entry

Whatever is keyed in, the operators of the entry do not pile up: a maximal run of them is a
single operator, or one of `*`, `/` and `^` with the sign of the operand behind it.  Nor does
a number get a second decimal point.  Both hold of the display after every sequence of keys
(`orderly_display`), also where a result, a failure or a single character that was taken back
has changed it.

## Strategy

`Orderly` says the same in terms that editing at the end can keep: a condition on neighbours,
and one on stretches without a divider.  Both pass to everything that is left when characters
are taken from the end (`Orderly.of_prefix`), and there is one lemma for each way in which
characters are put there (`Orderly.concat`, `Orderly.append_plain`).
-/

namespace DeskCalculator

open Entry Keypad

namespace Keypad

/-! ## What an orderly entry is -/

/-- The operators behind which a sign may stand. -/
def signedOperators : List Char := ['*', '/', '^']

/-- Whether one character may stand directly behind another: two operators do so only where the
second one is a sign. -/
def MayFollow (first second : Char) : Prop :=
  first ∈ operators → second ∈ operators → first ∈ signedOperators ∧ second = '-'

/-- Whether the operators of a text are kept apart, and the points, too. -/
structure Orderly (text : List Char) : Prop where
  /-- Neighbours may stand beside each other. -/
  neighbours : text.IsChain MayFollow
  /-- There is at most one point between dividers. -/
  points : ∀ stretch, stretch <:+: text → (∀ c ∈ stretch, isDivider c = false) →
    stretch.count '.' ≤ 1

/-- Whether a stretch of a text is a maximal run of operators. -/
def IsOperatorRun (text stretch : List Char) : Prop :=
  ∃ before after, text = before ++ stretch ++ after ∧ stretch ≠ [] ∧
    (∀ c ∈ stretch, c ∈ operators) ∧ (∀ c ∈ before.getLast?, c ∉ operators) ∧
    ∀ c ∈ after.head?, c ∉ operators

variable {text more : List Char} {c : Char}

/-- No third operator can follow, since a sign is none of those that take a sign. -/
theorem Orderly.operatorRun (h : Orderly text) {stretch : List Char}
    (hrun : IsOperatorRun text stretch) :
    stretch.length = 1 ∨ ∃ c ∈ signedOperators, stretch = [c, '-'] := by
  obtain ⟨before, after, rfl, hne, hoperators, -, -⟩ := hrun
  have hchain : stretch.IsChain MayFollow := h.neighbours.infix ⟨before, after, rfl⟩
  match stretch, hne with
  | [first], _ => exact .inl rfl
  | [first, second], _ =>
      obtain ⟨hfollow, -⟩ := List.isChain_cons_cons.1 hchain
      obtain ⟨hsigned, rfl⟩ := hfollow (hoperators _ (by simp)) (hoperators _ (by simp))
      exact .inr ⟨first, hsigned, rfl⟩
  | first :: second :: third :: rest, _ =>
      obtain ⟨hfollow, hrest⟩ := List.isChain_cons_cons.1 hchain
      obtain ⟨hfollow', -⟩ := List.isChain_cons_cons.1 hrest
      obtain ⟨-, rfl⟩ := hfollow (hoperators _ (by simp)) (hoperators _ (by simp))
      obtain ⟨hsigned, -⟩ := hfollow' (hoperators _ (by simp)) (hoperators _ (by simp))
      exact absurd hsigned (by decide)

/-- Nor does a third one stand in front of two at the end. -/
theorem Orderly.third_notMem {before : List Char} {second last : Char}
    (h : Orderly (before ++ [second, last])) (hsecond : second ∈ operators)
    (hlast : last ∈ operators) : ∀ first ∈ before.getLast?, first ∉ operators := by
  intro first hfirst hmem
  obtain ⟨-, hpair, hjoint⟩ := List.isChain_append.1 h.neighbours
  obtain ⟨-, rfl⟩ := hjoint first hfirst second (by simp) hmem hsecond
  have hsigned := (List.isChain_cons_cons.1 hpair).1 hsecond hlast
  exact absurd hsigned.1 (by decide)

/-- What lies between dividers is a stretch without one. -/
theorem of_mem_splitOnP {p : Char → Bool} {segment : List Char} (h : segment ∈ text.splitOnP p) :
    segment <:+: text ∧ ∀ c ∈ segment, p c = false := by
  suffices hsplit : (∃ head tail, text.splitOnP p = head :: tail ∧ head <+: text ∧
      (∀ c ∈ head, p c = false) ∧
      ∀ segment ∈ tail, segment <:+: text ∧ ∀ c ∈ segment, p c = false) by
    obtain ⟨head, tail, heq, hbegins, hhead, htail⟩ := hsplit
    rw [heq, List.mem_cons] at h
    rcases h with rfl | h
    · exact ⟨hbegins.isInfix, hhead⟩
    · exact htail segment h
  clear h segment
  induction text with
  | nil => exact ⟨[], [], by simp, List.nil_prefix, by simp, by simp⟩
  | cons c rest ih =>
      obtain ⟨head, tail, heq, hbegins, hhead, htail⟩ := ih
      have htail' : ∀ segment ∈ tail, segment <:+: c :: rest ∧ ∀ c ∈ segment, p c = false :=
        fun segment hsegment => ⟨List.infix_cons (htail segment hsegment).1,
          (htail segment hsegment).2⟩
      rw [List.splitOnP_cons_eq_if_modifyHead, heq]
      split_ifs with hc
      · refine ⟨[], head :: tail, rfl, List.nil_prefix, by simp, ?_⟩
        intro segment hsegment
        rcases List.mem_cons.1 hsegment with rfl | hsegment
        · exact ⟨List.infix_cons hbegins.isInfix, hhead⟩
        · exact htail' segment hsegment
      · refine ⟨c :: head, tail, rfl, List.cons_prefix_cons.2 ⟨rfl, hbegins⟩, ?_, htail'⟩
        intro d hd
        rcases List.mem_cons.1 hd with rfl | hd
        · exact Bool.eq_false_iff.2 hc
        · exact hhead d hd

theorem Orderly.segment (h : Orderly text) {segment : List Char}
    (hsegment : segment ∈ text.splitOnP isDivider) : segment.count '.' ≤ 1 := by
  obtain ⟨hinner, hdivider⟩ := of_mem_splitOnP hsegment
  exact h.points segment hinner hdivider

/-! ## Editing at the end -/

theorem Orderly.of_prefix (h : Orderly text) (hbegins : more <+: text) : Orderly more where
  neighbours := h.neighbours.prefix hbegins
  points stretch hstretch := h.points stretch (hstretch.trans hbegins.isInfix)

/-- A stretch without dividers at the end lies in the last segment. -/
theorem suffix_lastSegment {stretch : List Char} (hsuffix : stretch <:+ text)
    (hdivider : ∀ c ∈ stretch, isDivider c = false) : stretch <:+ lastSegment text := by
  obtain ⟨before, rfl⟩ := hsuffix
  have hall : ∀ c ∈ stretch.reverse, (!isDivider c) = true := by
    intro c hc
    rw [hdivider c (List.mem_reverse.1 hc)]
    rfl
  rw [lastSegment, List.reverse_append, List.takeWhile_append_of_pos hall, List.reverse_append,
    List.reverse_reverse]
  exact List.suffix_append _ _

/-- A character is put at the end, beside one that it may follow; a point only where the last
segment has none. -/
theorem Orderly.concat (h : Orderly text) (hfollow : ∀ last ∈ text.getLast?, MayFollow last c)
    (hpoint : c = '.' → '.' ∉ lastSegment text) : Orderly (text ++ [c]) where
  neighbours := by
    refine List.isChain_append.2 ⟨h.neighbours, List.isChain_singleton c, ?_⟩
    intro last hlast d hd
    obtain rfl : c = d := by simpa using hd
    exact hfollow last hlast
  points stretch hstretch hdivider := by
    rcases List.infix_concat_iff.1 hstretch with hsuffix | hinner
    · rcases List.suffix_concat_iff.1 hsuffix with rfl | ⟨begun, rfl, hbegun⟩
      · exact Nat.zero_le 1
      have hdivider' : ∀ d ∈ begun, isDivider d = false :=
        fun d hd => hdivider d (List.mem_append_left _ hd)
      rw [List.count_append]
      by_cases hc : c = '.'
      · -- the point is the only one of the stretch, as the rest lies in the last segment
        have hnone : begun.count '.' = 0 := List.count_eq_zero.2 fun hmem =>
          hpoint hc ((suffix_lastSegment hbegun hdivider').mem hmem)
        rw [hnone, zero_add]
        exact List.count_le_length
      · rw [List.count_singleton, if_neg (by simpa using hc), add_zero]
        exact h.points begun hbegun.isInfix hdivider'
    · exact h.points stretch hinner hdivider

/-- Whether a character is neither an operator nor a point. -/
def isPlain (c : Char) : Bool := c ∉ operators && c ≠ '.'

theorem isPlain_iff : isPlain c = true ↔ c ∉ operators ∧ c ≠ '.' := by
  rw [isPlain, Bool.and_eq_true, decide_eq_true_iff, decide_eq_true_iff]

theorem mayFollow_of_first {first second : Char} (h : first ∉ operators) :
    MayFollow first second := fun hfirst => absurd hfirst h

theorem mayFollow_of_second {first second : Char} (h : second ∉ operators) :
    MayFollow first second := fun _ hsecond => absurd hsecond h

/-- Plain characters can be put at the end of any entry. -/
theorem Orderly.append_plain (h : Orderly text) (hmore : ∀ c ∈ more, isPlain c = true) :
    Orderly (text ++ more) := by
  induction more generalizing text with
  | nil => rwa [List.append_nil]
  | cons c rest ih =>
      have hc := isPlain_iff.1 (hmore c List.mem_cons_self)
      rw [List.append_cons]
      refine ih (h.concat (fun last _ => mayFollow_of_second hc.1) (fun hpoint => ?_)) ?_
      · exact absurd hpoint hc.2
      · exact fun d hd => hmore d (List.mem_cons_of_mem c hd)

theorem orderly_nil : Orderly [] where
  neighbours := List.isChain_nil
  points stretch hstretch _ := by
    rw [List.infix_nil.1 hstretch]
    exact Nat.zero_le 1

theorem orderly_singleton (c : Char) : Orderly [c] :=
  orderly_nil.concat (by simp) (by simp [lastSegment])

theorem orderly_of_plain (h : ∀ c ∈ text, isPlain c = true) : Orderly text :=
  orderly_nil.append_plain h

/-! ## What the display can show -/

theorem isPlain_label (kind : FaultKind) : ∀ c ∈ kind.label.toList, isPlain c = true := by
  have hplain : FaultKind.all.all fun kind => kind.label.toList.all isPlain := by decide +kernel
  exact List.all_eq_true.1 (List.all_eq_true.1 hplain kind (FaultKind.mem_all kind))

theorem notMem_operators_of_isDigit (h : c.isDigit = true) : c ∉ operators := by
  intro hmem
  have hcases : c = '+' ∨ c = '-' ∨ c = '*' ∨ c = '/' ∨ c = '^' := by simpa [operators] using hmem
  rcases hcases with rfl | rfl | rfl | rfl | rfl <;> exact absurd h (by decide)

theorem isPlain_of_isDigit (h : c.isDigit = true) : isPlain c = true := by
  refine isPlain_iff.2 ⟨notMem_operators_of_isDigit h, ?_⟩
  rintro rfl
  exact absurd h (by decide)

private theorem mem_of_mem_lastSegment (h : c ∈ lastSegment text) : c ∈ text :=
  List.mem_reverse.1 ((List.takeWhile_prefix _).mem (List.mem_reverse.1 h))

/-- A literal that is put behind plain characters or a sign. -/
theorem Orderly.append_literal (h : Orderly text) (hpoint : '.' ∉ text) (n : Surface.Literal) :
    Orderly (text ++ n.chars) := by
  have hwhole := h.append_plain fun c hc => isPlain_of_isDigit (n.isDigit_whole c hc)
  unfold Surface.Literal.chars
  split_ifs with hnone
  · rwa [List.append_nil]
  · rw [← List.append_assoc, List.append_cons]
    refine (hwhole.concat ?_ ?_).append_plain fun c hc =>
      isPlain_of_isDigit (n.isDigit_fraction c hc)
    · exact fun last _ => mayFollow_of_second (by decide)
    · intro _ hmem
      rcases List.mem_append.1 (mem_of_mem_lastSegment hmem) with hmem | hmem
      · exact hpoint hmem
      · exact absurd (n.isDigit_whole _ hmem) (by decide)

/-- A number is written with at most one sign in front, and one behind the mark of an exponent. -/
theorem orderly_chars (n : SignedNumeral) : Orderly n.chars := by
  have hminus : Orderly n.minus ∧ '.' ∉ n.minus := by
    unfold SignedNumeral.minus
    split_ifs
    · exact ⟨orderly_singleton '-', by decide⟩
    · exact ⟨orderly_nil, by simp⟩
  have hmantissa := hminus.1.append_literal hminus.2 n.numeral.mantissa
  unfold SignedNumeral.chars Numeral.chars
  cases n.numeral.power with
  | none => rwa [Option.elim_none, List.append_nil]
  | some p =>
      rw [Option.elim_some, Power.chars, ← List.append_assoc, List.append_cons, List.append_cons]
      have hmark := @Orderly.append_plain _ ['e'] hmantissa (List.all_eq_true.1 rfl)
      refine (hmark.concat ?_ ?_).append_plain fun c hc =>
        isPlain_of_isDigit (p.isDigit_digits c hc)
      · intro last hlast
        obtain rfl : 'e' = last := by simpa using hlast
        exact mayFollow_of_first (by decide)
      · unfold Power.sign
        split_ifs <;> exact fun h => absurd h (by decide)

/-- Whatever the float is, its text is orderly. -/
theorem orderly_displayText (v : Float) : Orderly (displayText v).toList := by
  cases hfinite : v.isFinite with
  | true =>
      obtain ⟨n, htext, -, -⟩ := exists_numeral_of_displayText hfinite
      rw [htext]
      exact orderly_chars n
  | false =>
      have htext := displayText_mem_of_not_isFinite hfinite
      simp only [List.mem_cons, List.not_mem_nil, or_false] at htext
      rcases htext with htext | htext | htext <;> rw [htext]
      · exact orderly_of_plain (List.all_eq_true.1 rfl)
      · exact orderly_of_plain (List.all_eq_true.1 rfl)
      · exact @Orderly.append_plain _ "Infinity".toList (orderly_singleton '-')
          (List.all_eq_true.1 rfl)

/-! ## Keys -/

variable {label : String}

/-- The keys that put the character on their label at the end. -/
def characterKeys : List Char :=
  ['0', '1', '2', '3', '4', '5', '6', '7', '8', '9', '.', '+', '-', '*', '/', '^', ')', ',', '%',
    '!', 'x', 'y', 'z']

/-- The labels of all keys. -/
def keyLabels : List String :=
  characterKeys.map Char.toString ++ functionKeys ++ constantKeys ++ panelKeys ++
    ["(", "=", "C", "DEL", "Solve"]

theorem notMem_namedKeys_of_isOperator (h : isOperator label = true) : label ∉ namedKeys := by
  obtain ⟨c, hc, hlabel⟩ := List.any_eq_true.1 h
  obtain rfl := beq_iff_eq.1 hlabel
  have hall : operators.all (·.toString ∉ namedKeys) = true := by decide +kernel
  exact of_decide_eq_true (List.all_eq_true.1 hall c hc)

/-- The other keys are those of single characters. -/
theorem exists_characterKey (h : label ∈ keyLabels) (hother : label ∉ namedKeys) :
    ∃ c ∈ characterKeys, c.toString = label := by
  simp only [keyLabels, namedKeys, List.mem_append, not_or] at h hother
  obtain ⟨⟨⟨hfunction, hconstant⟩, hpanel⟩, hcommand⟩ := hother
  simpa [hfunction, hconstant, hpanel, hcommand] using h

theorem isOperator_toString_iff : isOperator c.toString = true ↔ c ∈ operators := by
  rw [isOperator, List.any_eq_true]
  constructor
  · rintro ⟨d, hd, hsame⟩
    rwa [String.singleton_inj.1 (beq_iff_eq.1 hsame)]
  · exact fun hmem => ⟨c, hmem, beq_self_eq_true _⟩

theorem toList_toString (c : Char) : c.toString.toList = [c] := String.toList_singleton c

/-- No product is understood behind an operator. -/
theorem notMem_operators_of_impliesProduct (h : impliesProduct text = true) :
    ∀ last ∈ text.getLast?, last ∉ operators := by
  have hfactor : operators.all (!endsFactor ·) = true := by decide +kernel
  intro last hlast hmem
  have hlast' := List.all_eq_true.1 hfactor last hmem
  rw [Bool.not_eq_true'] at hlast'
  rw [Option.mem_def] at hlast
  rw [impliesProduct, hlast, Option.any_some, hlast', Bool.false_or, Bool.and_eq_true, beq_iff_eq,
    Option.some_inj] at h
  exact absurd (h.1 ▸ hmem) (by decide)

/-- What a key for a factor puts at the end is plain. -/
theorem isPlain_factorText
    (hlabel : label ∈ functionKeys ∨ label ∈ constantKeys ∨ label = "(") :
    ∀ c ∈ factorText label, isPlain c = true := by
  have hmem : label ∈ functionKeys ++ constantKeys ++ ["("] := by
    simpa [or_assoc] using hlabel
  have hall : (functionKeys ++ constantKeys ++ ["("]).all fun label =>
      (factorText label).all isPlain := by
    decide +kernel
  exact List.all_eq_true.1 (List.all_eq_true.1 hall label hmem)

/-- An operator takes the place of those that it cannot follow. -/
theorem Placed.orderly {display entry : List Char} (h : Placed display c.toString entry)
    (hc : c ∈ operators) (horderly : Orderly display) : Orderly entry := by
  -- the operator is put behind what is left of the entry
  have hput : ∀ before, before <+: display →
      (∀ last ∈ before.getLast?, MayFollow last c) → Orderly (before ++ c.toString.toList) := by
    intro before hbegins hfollow
    have hpoint : c = '.' → '.' ∉ lastSegment before := by
      rintro rfl
      exact absurd hc (by decide)
    rw [toList_toString]
    exact (horderly.of_prefix hbegins).concat hfollow hpoint
  have hlast : ∀ {before : List Char} {last : Char}, display = before ++ [last] →
      ∀ d ∈ display.getLast?, d = last := by
    rintro before last rfl d hd
    simpa [eq_comm] using hd
  cases h with
  | behindOperand hends hoperand =>
      refine hput _ List.prefix_rfl fun d hd => mayFollow_of_first ?_
      rwa [hlast hends d hd]
  | @sign before last hends hminus hplace =>
      obtain rfl : c = '-' := String.singleton_inj.1 hminus
      refine hput _ List.prefix_rfl fun d hd hmem _ => ⟨?_, rfl⟩
      obtain rfl := hlast hends d hd
      have hsigned : operators.all fun d => !(d ∈ signPlaces) || d ∈ signedOperators := by decide
      simpa [hplace] using List.all_eq_true.1 hsigned d hmem
  | forTwo hends hfirst hsign =>
      -- no third one stands in front of the two
      refine hput _ ⟨_, hends.symm⟩ fun first hmem => mayFollow_of_first ?_
      exact (hends ▸ horderly).third_notMem hfirst hsign first hmem
  | forOne hends _ hsingle =>
      exact hput _ ⟨_, hends.symm⟩ fun d hd => mayFollow_of_first (hsingle d hd)

end Keypad

/-- Whether an operation is the press of one of the keys. -/
def Operation.IsKey {ε : Type} : Operation ε → Prop
  | .press label _ => label ∈ keyLabels
  | .solve .. | .clearHistory | .setPrecision _ => False

namespace Session

variable {session next : Session} {label : String} {clock : Clock} {action : Option String}
  {c : Char}

theorem FactorPlaced.orderly {factor entry : List Char} (h : FactorPlaced session factor entry)
    (horderly : Orderly session.display) (hplain : ∀ c ∈ factor, isPlain c = true) :
    Orderly entry := by
  cases h with
  | replacing => exact orderly_of_plain hplain
  | times hproduct =>
      rw [List.append_cons]
      refine (horderly.concat (fun last hlast => ?_) (fun hpoint => ?_)).append_plain hplain
      · exact mayFollow_of_first (notMem_operators_of_impliesProduct hproduct last hlast)
      · exact absurd hpoint (by decide)
  | behind => exact horderly.append_plain hplain

/-- An operator and any other character of a key. -/
theorem Appended.orderly (h : Appended session c.toString next)
    (horderly : Orderly session.display) : Orderly next.display := by
  cases h with
  | behindFailure | secondPoint | otherOperator => exact horderly
  | sign => exact orderly_singleton '-'
  | operator hoperator hplaced =>
      exact hplaced.orderly (isOperator_toString_iff.1 hoperator) horderly
  | replacing =>
      show Orderly c.toString.toList
      rw [toList_toString]
      exact orderly_singleton c
  | behind hcharacter hpoint =>
      show Orderly (session.display ++ c.toString.toList)
      rw [toList_toString]
      refine horderly.concat (fun last _ => mayFollow_of_second ?_) ?_
      · exact mt isOperator_toString_iff.2 hcharacter
      · rintro rfl
        exact hpoint rfl

theorem Equalled.orderly (h : Equalled session clock next action)
    (horderly : Orderly session.display) : Orderly next.display := by
  cases h with
  | stay => exact horderly
  | equation => exact horderly.append_plain (List.all_eq_true.1 rfl)
  | @result evaluation _ hvalue =>
      obtain ⟨v, htext⟩ := exists_displayText_of_evaluateEntry hvalue
      show Orderly evaluation.result.display.toList
      rw [htext]
      exact orderly_displayText v
  | fault kind => exact orderly_of_plain (isPlain_label kind)

/-- Every key keeps the entry orderly. -/
theorem orderly_press (h : Orderly session.display) (hlabel : label ∈ keyLabels)
    (hpress : session.press label clock = .ok (next, action)) : Orderly next.display := by
  cases Pressed.of_press hpress with
  | factor hkey hfactor => exact hfactor.orderly h (isPlain_factorText hkey)
  | panel | solve => exact h
  | clear => exact orderly_singleton '0'
  | delete => exact h.of_prefix (List.dropLast_prefix _)
  | equals _ hequalled => exact hequalled.orderly h
  | character hother happended =>
      obtain ⟨c, -, rfl⟩ := exists_characterKey hlabel hother
      exact happended.orderly h

variable {ε : Type}

theorem orderly_apply (h : Orderly session.display) {key : Operation ε} (hkey : key.IsKey) :
    Orderly (session.apply key).1.display := by
  cases key with
  | press label clock =>
      rw [apply]
      cases hpress : session.press label clock with
      | error failure => exact h
      | ok outcome => exact orderly_press h hkey hpress
  | solve | clearHistory | setPrecision => exact hkey.elim

theorem orderly_run (h : Orderly session.display) {keys : List (Operation ε)}
    (hkeys : ∀ key ∈ keys, key.IsKey) : Orderly (session.run keys).display := by
  induction keys generalizing session with
  | nil => exact h
  | cons key later ih =>
      rw [run_cons]
      exact ih (orderly_apply h (hkeys key List.mem_cons_self))
        fun key hkey => hkeys key (List.mem_cons_of_mem _ hkey)

/-- Whatever keys are pressed from the start, whether they fail or not: each maximal run of
operators on the display is a single operator, or one of `*`, `/` and `^` with a minus behind it;
and between two of the dividers there is at most one point. -/
theorem orderly_display (precision : Precision) (keys : List (Operation ε))
    (hkeys : ∀ key ∈ keys, key.IsKey) :
    let display := ((fresh precision).run keys).display
    (∀ stretch, IsOperatorRun display stretch →
      stretch.length = 1 ∨ ∃ c ∈ signedOperators, stretch = [c, '-']) ∧
    ∀ segment ∈ display.splitOnP isDivider, segment.count '.' ≤ 1 := by
  have horderly : Orderly ((fresh precision).run keys).display :=
    orderly_run (orderly_singleton '0') hkeys
  exact ⟨fun stretch => horderly.operatorRun, fun segment => horderly.segment⟩

/-- Operators that are replaced, a sign, and a second point that is not taken. -/
theorem orderly_display_signed :
    let keys : List (Operation Empty) := ["1", ".", "5", ".", "+", "*", "-", ".", "2"].map
      fun label => .press label ⟨0, 0⟩
    (∀ key ∈ keys, key.IsKey) ∧
      ((fresh none).run keys).display = "1.5*-.2".toList ∧
      (∀ stretch, IsOperatorRun ((fresh none).run keys).display stretch →
        stretch.length = 1 ∨ ∃ c ∈ signedOperators, stretch = [c, '-']) ∧
      ∀ segment ∈ ((fresh none).run keys).display.splitOnP isDivider, segment.count '.' ≤ 1 := by
  intro keys
  have hkeys : ∀ key ∈ keys, key.IsKey := by
    intro key hkey
    obtain ⟨label, hlabel, rfl⟩ := List.mem_map.1 hkey
    have hall : ["1", ".", "5", ".", "+", "*", "-", ".", "2"].all (· ∈ keyLabels) := by
      decide +kernel
    show label ∈ keyLabels
    exact of_decide_eq_true (List.all_eq_true.1 hall label hlabel)
  exact ⟨hkeys, by decide +kernel, orderly_display none keys hkeys⟩

end Session

end DeskCalculator
