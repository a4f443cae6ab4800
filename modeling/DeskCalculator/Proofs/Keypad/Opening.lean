import DeskCalculator.Proofs.Keypad.Coherence
import DeskCalculator.Proofs.Keypad.Filled

/-!
# The operator at the front of an entry

An entry may open with a sign, but there is no operand in front of it for another operator.  The
zero at the start takes no operator but the minus.  A lone minus, however, gives way to any
operator, which then stands at the front.  No key brings an operator there in another way: along
a run of keys none opens the display exactly as long as none is put in the place of a lone
minus (`no_operator_opens_until_replaced`).

## Strategy

Most keys leave the front of the display alone (`opens_append_iff`), and what takes the place of
all of it is the text of a key, a result or a failure, none of which opens with an operator.  The
key of an operator can reach the front only where two operators or one make up the whole
display; two do not, since in an orderly entry the first of them would be an operator that opens
it (`Placed.opens_iff`).
-/

namespace DeskCalculator

open Keypad

namespace Keypad

/-- The operators that need an operand in front of them. -/
def binaryOperators : List Char := ['+', '*', '/', '^']

/-- Whether a text begins with an operator that needs an operand in front of it. -/
def OpensWithOperator (text : List Char) : Prop := ∃ c ∈ text.head?, c ∈ binaryOperators

variable {text more : List Char} {c : Char}

theorem opens_singleton_iff : OpensWithOperator [c] ↔ c ∈ binaryOperators := by
  simp [OpensWithOperator]

theorem opens_append_iff (h : text ≠ []) :
    OpensWithOperator (text ++ more) ↔ OpensWithOperator text := by
  rw [OpensWithOperator, List.head?_append_of_ne_nil _ h, OpensWithOperator]

/-- What is left of a text opens as the text does. -/
theorem OpensWithOperator.of_begins (h : OpensWithOperator more) (hbegins : more <+: text) :
    OpensWithOperator text := by
  obtain ⟨rest, rfl⟩ := hbegins
  have hne : more ≠ [] := by
    rintro rfl
    obtain ⟨c, hc, -⟩ := h
    cases hc
  exact (opens_append_iff hne).2 h

theorem mem_binaryOperators_iff : c ∈ binaryOperators ↔ c ∈ Entry.operators ∧ c ≠ '-' := by
  have hall : ∀ c ∈ Entry.operators, c ∈ binaryOperators ↔ c ≠ '-' := by
    simp [binaryOperators, Entry.operators]
  have hsub : ∀ c ∈ binaryOperators, c ∈ Entry.operators := by
    simp [binaryOperators, Entry.operators]
  exact ⟨fun hc => ⟨hsub c hc, (hall c (hsub c hc)).1 hc⟩, fun hc => (hall c hc.1).2 hc.2⟩

theorem isOperator_of_mem_binaryOperators (h : c ∈ binaryOperators) :
    isOperator c.toString = true :=
  isOperator_toString_iff.2 (mem_binaryOperators_iff.1 h).1

/-- The first of two operators is not a sign. -/
theorem Orderly.opens_pair {first second : Char} (h : Orderly [first, second])
    (hfirst : first ∈ Entry.operators) (hsecond : second ∈ Entry.operators) :
    OpensWithOperator [first, second] := by
  obtain ⟨hfollow, -⟩ := List.isChain_cons_cons.1 h.neighbours
  have hne : first ≠ '-' := by
    rintro rfl
    exact absurd (hfollow hfirst hsecond).1 (by decide)
  exact ⟨first, rfl, mem_binaryOperators_iff.2 ⟨hfirst, hne⟩⟩

/-! ## Texts that do not open with an operator -/

theorem not_opens_of_plain (h : ∀ c ∈ text, isPlain c = true) : ¬ OpensWithOperator text := by
  rintro ⟨c, hc, hoperator⟩
  have hplain := isPlain_iff.1 (h c (List.mem_of_mem_head? hc))
  exact hplain.1 (mem_binaryOperators_iff.1 hoperator).1

private theorem not_opens_displayText (v : Float) : ¬ OpensWithOperator (displayText v).toList := by
  rintro ⟨c, hc, hoperator⟩
  obtain ⟨first, hfirst, hkind⟩ := exists_head_displayText v
  obtain rfl := Option.mem_unique hc hfirst
  rcases hkind with hdigit | hother
  · exact notMem_operators_of_isDigit hdigit (mem_binaryOperators_iff.1 hoperator).1
  · have hall : ∀ c ∈ ['-', 'N', 'I'], c ∉ binaryOperators := by simp [binaryOperators]
    exact hall c hother hoperator

/-! ## Operators that are put on a display -/

/-- What is left of the entry in front of an operator keeps it from the front. -/
theorem not_opens_put (hfront : ¬ OpensWithOperator text) (hbegins : more <+: text)
    (hne : more ≠ []) (operator : List Char) : ¬ OpensWithOperator (more ++ operator) :=
  fun hopens => hfront (((opens_append_iff hne).1 hopens).of_begins hbegins)

/-- An operator gets to the front only in the place of a lone minus. -/
theorem Placed.opens_iff {display entry : List Char} (h : Placed display c.toString entry)
    (horderly : Orderly display) (hfront : ¬ OpensWithOperator display) :
    OpensWithOperator entry ↔ display = ['-'] ∧ c ∈ binaryOperators := by
  have hlone : ∀ {before : List Char} {last : Char}, display = before ++ [last] →
      display = ['-'] → before = [] ∧ last = '-' := by
    rintro before last rfl hminus
    have hboth := List.append_inj' (hminus.trans (List.nil_append _).symm) rfl
    exact ⟨hboth.1, List.singleton_injective hboth.2⟩
  have hne : ∀ {before : List Char} {last : Char}, display = before ++ [last] → display ≠ [] := by
    rintro before last rfl
    exact List.concat_ne_nil last before
  cases h with
  | behindOperand hends hoperand =>
      refine iff_of_false (not_opens_put hfront List.prefix_rfl (hne hends) _) fun hreplaces => ?_
      rw [(hlone hends hreplaces.1).2] at hoperand
      exact absurd hoperand (by decide)
  | sign hends hminus =>
      refine iff_of_false (not_opens_put hfront List.prefix_rfl (hne hends) _) fun hreplaces => ?_
      obtain rfl : c = '-' := String.singleton_inj.1 hminus
      exact absurd hreplaces.2 (by decide)
  | @forTwo before second last hends hoperator hsign =>
      -- there is something in front of the two
      have hbefore : before ≠ [] := by
        rintro rfl
        rw [List.nil_append] at hends
        subst hends
        exact hfront (horderly.opens_pair hoperator hsign)
      refine iff_of_false (not_opens_put hfront ⟨_, hends.symm⟩ hbefore _) fun hreplaces => ?_
      rw [List.append_cons] at hends
      exact absurd (hlone hends hreplaces.1).1 (by simp)
  | @forOne before last hends hoperator _ =>
      by_cases hbefore : before = []
      · -- the operator that is there alone is the minus
        subst hbefore hends
        rw [List.nil_append, opens_singleton_iff, mem_binaryOperators_iff, not_and,
          not_not] at hfront
        rw [hfront hoperator, toList_toString]
        exact opens_singleton_iff.trans (and_iff_right rfl).symm
      · refine iff_of_false (not_opens_put hfront ⟨_, hends.symm⟩ hbefore _) fun hreplaces => ?_
        exact hbefore (hlone hends hreplaces.1).1

end Keypad

/-! ## Keys -/

namespace Session

variable {ε : Type} {session next : Session} {label : String} {clock : Clock}
  {action : Option String} {c : Char}

/-- Whether an operation is the key of an operator that takes the place of a lone minus. -/
def ReplacesSign (session : Session) : Operation ε → Prop
  | .press label _ => session.display = ['-'] ∧ ∃ c ∈ binaryOperators, label = c.toString
  | .solve .. | .clearHistory | .setPrecision _ => False

/-- What runs of keys keep, apart from the front of the display. -/
structure Keyed (session : Session) : Prop where
  orderly : Orderly session.display
  coherent : Coherent session
  filled : session.Filled

/-- The label of a failure is not a minus. -/
theorem Keyed.display_ne_minus (h : Keyed session) (hmode : session.mode = .error) :
    session.display ≠ ['-'] := by
  obtain ⟨kind, hlabel⟩ := h.coherent.error hmode
  rw [hlabel]
  cases kind <;> decide

/-! ### What each key does to the front -/

theorem FactorPlaced.not_opens {factor entry : List Char} (h : FactorPlaced session factor entry)
    (hfilled : session.Filled) (hfront : ¬ OpensWithOperator session.display)
    (hplain : ∀ c ∈ factor, isPlain c = true) : ¬ OpensWithOperator entry := by
  cases h with
  | replacing => exact not_opens_of_plain hplain
  | times | behind => exact mt (opens_append_iff hfilled).1 hfront

/-- A character brings an operator to the front only in the place of a lone minus. -/
theorem Appended.opens_iff (h : Appended session c.toString next) (hkeyed : Keyed session)
    (hfront : ¬ OpensWithOperator session.display) :
    OpensWithOperator next.display ↔ session.display = ['-'] ∧ c ∈ binaryOperators := by
  have hzero : session.display = ['0'] → session.display ≠ ['-'] := by
    rintro hzero hminus
    exact absurd (hzero.symm.trans hminus) (by decide)
  cases h with
  | behindFailure hfailure =>
      exact iff_of_false hfront fun hreplaces => hkeyed.display_ne_minus hfailure hreplaces.1
  | secondPoint hpoint =>
      refine iff_of_false hfront fun hreplaces => ?_
      obtain rfl : c = '.' := String.singleton_inj.1 hpoint
      exact absurd hreplaces.2 (by decide)
  | sign hstart =>
      exact iff_of_false (mt opens_singleton_iff.1 (by decide)) fun hreplaces =>
        hzero hstart hreplaces.1
  | otherOperator hstart =>
      exact iff_of_false hfront fun hreplaces => hzero hstart hreplaces.1
  | operator _ hplaced => exact hplaced.opens_iff hkeyed.orderly hfront
  | replacing hcharacter =>
      have hother := mt isOperator_of_mem_binaryOperators hcharacter
      refine iff_of_false (fun hopens => hother ?_) (mt And.right hother)
      show c ∈ binaryOperators
      rwa [← opens_singleton_iff, ← toList_toString]
  | behind hcharacter =>
      exact iff_of_false (mt (opens_append_iff hkeyed.filled).1 hfront) <|
        mt And.right (mt isOperator_of_mem_binaryOperators hcharacter)

theorem Equalled.not_opens (h : Equalled session clock next action) (hfilled : session.Filled)
    (hfront : ¬ OpensWithOperator session.display) : ¬ OpensWithOperator next.display := by
  cases h with
  | stay => exact hfront
  | equation => exact mt (opens_append_iff hfilled).1 hfront
  | @result evaluation _ hvalue =>
      obtain ⟨v, htext⟩ := exists_displayText_of_evaluateEntry hvalue
      show ¬ OpensWithOperator evaluation.result.display.toList
      rw [htext]
      exact not_opens_displayText v
  | fault kind => exact not_opens_of_plain (isPlain_label kind)

/-- A key brings an operator to the front only in the place of a lone minus. -/
theorem opens_press_iff (h : Keyed session) (hfront : ¬ OpensWithOperator session.display)
    (hlabel : label ∈ keyLabels) (hpress : session.press label clock = .ok (next, action)) :
    OpensWithOperator next.display ↔
      session.display = ['-'] ∧ ∃ c ∈ binaryOperators, label = c.toString := by
  -- no named key is that of an operator
  have hnamed : label ∈ namedKeys → ¬ OpensWithOperator next.display →
      (OpensWithOperator next.display ↔
        session.display = ['-'] ∧ ∃ c ∈ binaryOperators, label = c.toString) := by
    refine fun hmem hkept => iff_of_false hkept ?_
    rintro ⟨-, c, hc, rfl⟩
    exact notMem_namedKeys_of_isOperator (isOperator_of_mem_binaryOperators hc) hmem
  rw [mem_namedKeys_iff] at hnamed
  cases Pressed.of_press hpress with
  | factor hkey hfactor =>
      exact hnamed (.inl hkey) (hfactor.not_opens h.filled hfront (isPlain_factorText hkey))
  | panel hkey => exact hnamed (.inr (.inl hkey)) hfront
  | solve hkey => exact hnamed (by simp [hkey]) hfront
  | clear hkey => exact hnamed (by tauto) (mt opens_singleton_iff.1 (by decide))
  | delete hkey =>
      exact hnamed (by simp [hkey]) fun hopens => hfront (hopens.of_begins (List.dropLast_prefix _))
  | equals hkey hequalled => exact hnamed (by simp [hkey]) (hequalled.not_opens h.filled hfront)
  | character hother happended =>
      obtain ⟨c, -, rfl⟩ := exists_characterKey hlabel hother
      rw [happended.opens_iff h hfront]
      simp [String.singleton_inj]

/-! ## Runs -/

theorem opens_apply_iff (h : Keyed session) (hfront : ¬ OpensWithOperator session.display)
    {key : Operation ε} (hkey : key.IsKey) :
    OpensWithOperator (session.apply key).1.display ↔ session.ReplacesSign key := by
  cases key with
  | press label clock =>
      rw [apply]
      cases hpress : session.press label clock with
      | ok outcome => exact opens_press_iff h hfront hkey hpress
      | error failure =>
          -- an operator does not fail on a filled display
          refine iff_of_false hfront fun hreplaces => ?_
          obtain ⟨-, c, hc, rfl⟩ := hreplaces
          have hoperator := isOperator_of_mem_binaryOperators hc
          rw [press_eq_append (notMem_namedKeys_of_isOperator hoperator)] at hpress
          cases happend : session.append c.toString with
          | ok next =>
              rw [happend] at hpress
              cases hpress
          | error failure => exact (append_eq_error_iff.1 happend).1 h.filled
  | solve | clearHistory | setPrecision => exact hkey.elim

/-- Each key has a label. -/
theorem filled_run_keys (h : session.Filled) {keys : List (Operation ε)}
    (hkeys : ∀ key ∈ keys, key.IsKey) : (session.run keys).Filled := by
  have hanswers : ∀ key ∈ keys, key.Answers := by
    intro key hmem
    cases key with
    | press => trivial
    | solve => exact (hkeys _ hmem).elim
    | clearHistory | setPrecision => trivial
  refine (filled_run_iff h hanswers).2 (fun earlier key hbegins herases => ?_) keys List.prefix_rfl
  have hkey := hkeys key (hbegins.mem (List.mem_append_right _ List.mem_cons_self))
  cases key with
  | press label clock =>
      have hnone : "" ∉ keyLabels := by decide +kernel
      obtain rfl := herases.1
      exact hnone hkey
  | solve | clearHistory | setPrecision => exact hkey.elim

theorem keyed_run (precision : Precision) {keys : List (Operation ε)}
    (hkeys : ∀ key ∈ keys, key.IsKey) : Keyed ((fresh precision).run keys) where
  orderly := orderly_run (orderly_singleton '0') hkeys
  coherent := (coherent_fresh precision).run keys
  filled := filled_run_keys (filled_fresh precision) hkeys

/-- From the start, whatever keys are pressed: none of `+`, `*`, `/` and `^` is at the front of the
display exactly as long as none of their keys is pressed where the display is a lone minus. -/
theorem no_operator_opens_until_replaced (precision : Precision) (keys : List (Operation ε))
    (hkeys : ∀ key ∈ keys, key.IsKey) :
    (∀ earlier, earlier <+: keys → ¬ OpensWithOperator ((fresh precision).run earlier).display) ↔
      ∀ earlier key, earlier ++ [key] <+: keys →
        ¬ ((fresh precision).run earlier).ReplacesSign key := by
  have hfresh : ¬ OpensWithOperator (fresh precision).display :=
    mt opens_singleton_iff.1 (by decide : '0' ∉ binaryOperators)
  refine @forall_prefix_iff _ _ (fun session => ¬ OpensWithOperator session.display)
    ReplacesSign keys hfresh fun earlier key hbegins hfront => not_congr ?_
  refine opens_apply_iff (keyed_run precision fun key hmem => ?_) hfront ?_
  · exact hkeys key (hbegins.mem (List.mem_append_left _ hmem))
  · exact hkeys key (hbegins.mem (List.mem_append_right _ List.mem_cons_self))

/-- A minus that is taken back in time, and an operator behind a number. -/
theorem no_operator_opens_until_replaced_negative :
    let keys : List (Operation Empty) := ["-", "DEL", "+", "-", "2", "*"].map
      fun label => .press label ⟨0, 0⟩
    (∀ key ∈ keys, key.IsKey) ∧ ((fresh none).run keys).display = "-2*".toList ∧
      ((∀ earlier, earlier <+: keys → ¬ OpensWithOperator ((fresh none).run earlier).display) ↔
        ∀ earlier key, earlier ++ [key] <+: keys →
          ¬ ((fresh none).run earlier).ReplacesSign key) := by
  intro keys
  have hkeys : ∀ key ∈ keys, key.IsKey := by
    intro key hkey
    obtain ⟨label, hlabel, rfl⟩ := List.mem_map.1 hkey
    have hall : ["-", "DEL", "+", "-", "2", "*"].all (· ∈ keyLabels) := by decide +kernel
    show label ∈ keyLabels
    exact of_decide_eq_true (List.all_eq_true.1 hall label hlabel)
  exact ⟨hkeys, by decide +kernel, no_operator_opens_until_replaced none keys hkeys⟩

/-- A plus takes the place of a lone minus. -/
theorem plus_opens_in_place_of_minus :
    let keys : List (Operation Empty) := [.press "-" ⟨0, 0⟩, .press "+" ⟨0, 0⟩]
    (∀ key ∈ keys, key.IsKey) ∧ ((fresh none).run keys).display = ['+'] ∧
      OpensWithOperator ((fresh none).run keys).display := by
  intro keys
  have hkeys : ∀ key ∈ keys, key.IsKey := by
    have hlabels : "-" ∈ keyLabels ∧ "+" ∈ keyLabels := by decide +kernel
    simp [keys, Operation.IsKey, hlabels]
  have hdisplay : ((fresh none).run keys).display = ['+'] := by decide +kernel
  exact ⟨hkeys, hdisplay, '+', by rw [hdisplay]; rfl, by decide⟩

end Session

end DeskCalculator
