import DeskCalculator.Proofs.Grammar.Closing

/-!
# Every tree that is read is derived

This file proves that the tokens that the parser accepts are a sum of the
grammar with the tree that it returns (`ofTokens_spec`), and that everything
it refuses is a syntax error.

The invariant is `Spells`: it says which tokens a stack of pending entries
stands for, each entry with the phrase that it keeps.  An entry for an operation
is only ever put on a stack that its operator could not close, so the head below
it is weaker (`HeadBelow`), and that is what makes the phrases fit the levels of
the grammar when the stack is closed again.
-/

namespace DeskCalculator.Grammar

open DeskCalculator.Expr

/-! ## Stacks as tokens -/

/-- The tokens of an open call behind its parenthesis: the arguments so far, each with the comma
that follows it. -/
inductive Begun : List Token → List Expr → Prop
  | none : Begun [] []
  | more {tokens argument : List Token} {done : List Expr} {e : Expr} {comma : Token}
      (begun : Begun tokens done) (sum : IsSum argument e) (separates : comma.Is .symbol ",") :
      Begun (tokens ++ (argument ++ [comma])) (e :: done)

/-- The tokens that a stack of pending entries stands for. -/
inductive Spells : List Pending → List Token → Prop
  | empty : Spells [] []
  | sign {pending : List Pending} {tokens : List Token} {sign : Token}
      (below : Spells pending tokens) (additive : sign.Additive) :
      Spells (.sign sign.text :: pending) (tokens ++ [sign])
  | sum {pending : List Pending} {tokens operand : List Token} {left : Expr} {joint : Token}
      (below : Spells pending tokens) (head : HeadBelow 1 pending) (phrase : IsSum operand left)
      (joins : joint.Additive) :
      Spells (.operation left joint.text :: pending) (tokens ++ (operand ++ [joint]))
  | term {pending : List Pending} {tokens operand : List Token} {left : Expr} {joint : Token}
      (below : Spells pending tokens) (head : HeadBelow 2 pending) (phrase : IsTerm operand left)
      (joins : joint.Multiplicative) :
      Spells (.operation left joint.text :: pending) (tokens ++ (operand ++ [joint]))
  | power {pending : List Pending} {tokens operand : List Token} {left : Expr} {joint : Token}
      (below : Spells pending tokens) (head : HeadBelow 4 pending) (phrase : IsSigned operand left)
      (raises : joint.Is .power "**") :
      Spells (.operation left joint.text :: pending) (tokens ++ (operand ++ [joint]))
  | group {pending : List Pending} {tokens : List Token} {opening : Token}
      (below : Spells pending tokens) (opens : opening.Is .symbol "(") :
      Spells (.group :: pending) (tokens ++ [opening])
  | call {pending : List Pending} {tokens operand given : List Token} {callee : Expr}
      {done : List Expr} {opening : Token} (below : Spells pending tokens)
      (phrase : IsApplied operand callee) (opens : opening.Is .symbol "(")
      (begun : Begun given done) :
      Spells (.call callee done :: pending) (tokens ++ (operand ++ opening :: given))

/-- Tokens that are a stack and, behind it, an operand that is a phrase of the given sort. -/
def Holds (phrase : List Token → Expr → Prop) (tokens : List Token) (state : Expr × List Pending) :
    Prop :=
  ∃ before after, tokens = before ++ after ∧ Spells state.2 before ∧ phrase after state.1

theorem Holds.mono {narrow wide : List Token → Expr → Prop}
    (hsub : ∀ {tokens e}, narrow tokens e → wide tokens e) {tokens : List Token}
    {state : Expr × List Pending} (h : Holds narrow tokens state) : Holds wide tokens state := by
  obtain ⟨before, after, rfl, hbefore, hafter⟩ := h
  exact ⟨before, after, rfl, hbefore, hsub hafter⟩

theorem Begun.finish {tokens : List Token} {done : List Expr} (h : Begun tokens done) :
    ∀ {after : List Token} {given : List Expr}, AreArguments after given →
      AreArguments (tokens ++ after) (done.reverse ++ given) := by
  induction h with
  | none => exact fun hgiven => hgiven
  | more begun sum separates ih =>
      intro after given hgiven
      simpa using ih (.more sum separates hgiven)

theorem Begun.last {tokens after : List Token} {done : List Expr} {e : Expr}
    (begun : Begun tokens done) (sum : IsSum after e) :
    AreArguments (tokens ++ after) (e :: done).reverse := by
  rw [List.reverse_cons]
  exact begun.finish (.last sum)

/-! ## Closing a stack -/

/-- What closing comes to when it starts from `state`: it arrives at a state from which it gives
the same, with a phrase of the given sort in front of a head that is weaker than `bound`. -/
def Arrives (test : String → Bool) (phrase : List Token → Expr → Prop) (bound : Nat)
    (tokens : List Token) (state : Expr × List Pending) : Prop :=
  ∃ next : Expr × List Pending, closeWhile test state.1 state.2 = closeWhile test next.1 next.2 ∧
    Holds phrase tokens next ∧ HeadBelow bound next.2

theorem Arrives.here {test : String → Bool} {phrase : List Token → Expr → Prop} {bound : Nat}
    {tokens : List Token} {state : Expr × List Pending} (h : Holds phrase tokens state)
    (hhead : HeadBelow bound state.2) : Arrives test phrase bound tokens state :=
  ⟨state, rfl, h, hhead⟩

theorem Arrives.of_eq {test : String → Bool} {phrase : List Token → Expr → Prop} {bound : Nat}
    {tokens : List Token} {state : Expr × List Pending} (other : Expr × List Pending)
    (heq : closeWhile test state.1 state.2 = closeWhile test other.1 other.2)
    (h : Arrives test phrase bound tokens other) : Arrives test phrase bound tokens state := by
  obtain ⟨next, hnext, hholds⟩ := h
  exact ⟨next, heq.trans hnext, hholds⟩

/-- The signs in front of an operand are closed first, by every test. -/
theorem arrives_signs (test : String → Bool) {tokens : List Token} {operand : Expr}
    {pending : List Pending} (h : Holds IsSigned tokens (operand, pending)) :
    Arrives test IsSigned 4 tokens (operand, pending) := by
  induction pending generalizing operand with
  | nil => exact .here h trivial
  | cons entry rest ih =>
      obtain ⟨before, after, rfl, hbefore, hafter⟩ := h
      cases entry with
      | sign operator =>
          cases hbefore with
          | sign below additive =>
              refine .of_eq (.sign _ operand, rest) rfl (ih ?_)
              exact ⟨_, _, List.append_assoc .., below, .sign additive hafter⟩
      | operation left operator =>
          exact .here ⟨_, _, rfl, hbefore, hafter⟩ (Nat.lt_succ_of_le (strength_le_three _))
      | group => exact .here ⟨_, _, rfl, hbefore, hafter⟩ trivial
      | call callee done => exact .here ⟨_, _, rfl, hbefore, hafter⟩ trivial

/-- Then the powers, from right to left. -/
theorem arrives_powers {test : String → Bool} (htest : test "**" = true) {tokens : List Token}
    {operand : Expr} {pending : List Pending} (h : Holds IsPower tokens (operand, pending))
    (hhead : HeadBelow 4 pending) : Arrives test IsPower 3 tokens (operand, pending) := by
  induction pending generalizing operand with
  | nil => exact .here h trivial
  | cons entry rest ih =>
      obtain ⟨before, after, rfl, hbefore, hafter⟩ := h
      cases entry with
      | sign operator => exact hhead.elim
      | operation left operator =>
          cases hbefore with
          | sum below head phrase joins =>
              have := strength_additive joins
              exact .here ⟨_, _, rfl, .sum below head phrase joins, hafter⟩
                (headBelow_operation (by omega))
          | term below head phrase joins =>
              have := strength_multiplicative joins
              exact .here ⟨_, _, rfl, .term below head phrase joins, hafter⟩
                (headBelow_operation (by omega))
          | @power _ _ _ _ joint below head phrase raises =>
              refine .of_eq (.operation left joint.text operand, rest) ?_ (ih ?_ head)
              · simp [closeWhile, raises.2, htest]
              · exact ⟨_, _, by simp, below, .raise phrase raises hafter⟩
      | group => exact .here ⟨_, _, rfl, hbefore, hafter⟩ trivial
      | call callee done => exact .here ⟨_, _, rfl, hbefore, hafter⟩ trivial

/-- Then a product or a quotient; another cannot be pending below it. -/
theorem arrives_terms {test : String → Bool} (htest : test "*" = true ∧ test "/" = true)
    {tokens : List Token} {operand : Expr} {pending : List Pending}
    (h : Holds IsPower tokens (operand, pending)) (hhead : HeadBelow 3 pending) :
    Arrives test IsTerm 2 tokens (operand, pending) := by
  obtain ⟨before, after, rfl, hbefore, hafter⟩ := h
  cases hbefore with
  | empty => exact .here ⟨_, _, rfl, .empty, .power hafter⟩ trivial
  | sign below additive => exact hhead.elim
  | sum below head phrase joins =>
      have := strength_additive joins
      exact .here ⟨_, _, rfl, .sum below head phrase joins, .power hafter⟩
        (headBelow_operation (by omega))
  | @term rest _ _ left joint below head phrase joins =>
      refine .of_eq (.operation left joint.text operand, rest) ?_ (.here ?_ head)
      · obtain ⟨-, text⟩ | ⟨-, text⟩ := joins <;> simp [closeWhile, text, htest]
      · exact ⟨_, _, by simp, below, .join phrase joins hafter⟩
  | power below head phrase raises =>
      exact absurd hhead (by simp [HeadBelow, strength_power raises])
  | group below opens => exact .here ⟨_, _, rfl, .group below opens, .power hafter⟩ trivial
  | call below phrase opens begun =>
      exact .here ⟨_, _, rfl, .call below phrase opens begun, .power hafter⟩ trivial

/-- And last a sum or a difference. -/
theorem arrives_sums {test : String → Bool} (htest : test "+" = true ∧ test "-" = true)
    {tokens : List Token} {operand : Expr} {pending : List Pending}
    (h : Holds IsTerm tokens (operand, pending)) (hhead : HeadBelow 2 pending) :
    Arrives test IsSum 1 tokens (operand, pending) := by
  obtain ⟨before, after, rfl, hbefore, hafter⟩ := h
  cases hbefore with
  | empty => exact .here ⟨_, _, rfl, .empty, .term hafter⟩ trivial
  | sign below additive => exact hhead.elim
  | @sum rest _ _ left joint below head phrase joins =>
      refine .of_eq (.operation left joint.text operand, rest) ?_ (.here ?_ head)
      · obtain ⟨-, text⟩ | ⟨-, text⟩ := joins <;> simp [closeWhile, text, htest]
      · exact ⟨_, _, by simp, below, .join phrase joins hafter⟩
  | term below head phrase joins =>
      exact absurd hhead (by simp [HeadBelow, strength_multiplicative joins])
  | power below head phrase raises =>
      exact absurd hhead (by simp [HeadBelow, strength_power raises])
  | group below opens => exact .here ⟨_, _, rfl, .group below opens, .term hafter⟩ trivial
  | call below phrase opens begun =>
      exact .here ⟨_, _, rfl, .call below phrase opens begun, .term hafter⟩ trivial

/-- Where the test refuses every operator weaker than `bound`, closing stops on arrival. -/
theorem Arrives.result {test : String → Bool} {phrase : List Token → Expr → Prop} {bound : Nat}
    {tokens : List Token} {state : Expr × List Pending} (h : Arrives test phrase bound tokens state)
    (hstop : ∀ operator, strength operator < bound → test operator = false) :
    Holds phrase tokens (closeWhile test state.1 state.2) ∧
      HeadBelow bound (closeWhile test state.1 state.2).2 := by
  obtain ⟨next, hnext, hholds, hhead⟩ := h
  rw [hnext, closeWhile_of_headBelow hstop hhead]
  exact ⟨hholds, hhead⟩

section Results

variable {tokens : List Token} {operand : Expr} {pending : List Pending}

private theorem arrives_isPower {test : String → Bool} (hpower : test "**" = true)
    (h : Holds IsApplied tokens (operand, pending)) :
    Arrives test IsPower 3 tokens (operand, pending) := by
  obtain ⟨signed, hsigned, hholds, hhead⟩ := arrives_signs test (h.mono .applied)
  exact .of_eq signed hsigned (arrives_powers hpower (hholds.mono .signed) hhead)

theorem arrives_isTerm {test : String → Bool} (hpower : test "**" = true)
    (hterm : test "*" = true ∧ test "/" = true) (h : Holds IsApplied tokens (operand, pending)) :
    Arrives test IsTerm 2 tokens (operand, pending) := by
  obtain ⟨power, heq, hholds, hhead⟩ := arrives_isPower hpower h
  exact .of_eq power heq (arrives_terms hterm hholds hhead)

theorem arrives_isSum {test : String → Bool} (hpower : test "**" = true)
    (hterm : test "*" = true ∧ test "/" = true) (hsum : test "+" = true ∧ test "-" = true)
    (h : Holds IsApplied tokens (operand, pending)) :
    Arrives test IsSum 1 tokens (operand, pending) := by
  obtain ⟨term, heq, hholds, hhead⟩ := arrives_isTerm hpower hterm h
  exact .of_eq term heq (arrives_sums hsum hholds hhead)

theorem holds_close (h : Holds IsApplied tokens (operand, pending)) :
    Holds IsSum tokens (close operand pending) ∧ HeadBelow 1 (close operand pending).2 := by
  rw [close_eq_closeWhile]
  refine (arrives_isSum rfl ⟨rfl, rfl⟩ ⟨rfl, rfl⟩ h).result fun operator hlt => ?_
  have := one_le_strength operator
  omega

theorem holds_closeBefore_additive {joint : Token} (joins : joint.Additive)
    (h : Holds IsApplied tokens (operand, pending)) :
    Holds IsSum tokens (closeBefore joint.text operand pending) ∧
      HeadBelow 1 (closeBefore joint.text operand pending).2 := by
  rw [closeBefore_eq_closeWhile]
  refine (arrives_isSum ?_ ?_ ?_ h).result fun operator hlt => ?_
  · obtain ⟨-, text⟩ | ⟨-, text⟩ := joins <;> rw [text] <;> decide
  · obtain ⟨-, text⟩ | ⟨-, text⟩ := joins <;> rw [text] <;> decide
  · obtain ⟨-, text⟩ | ⟨-, text⟩ := joins <;> rw [text] <;> decide
  · have := one_le_strength operator
    omega

theorem holds_closeBefore_multiplicative {joint : Token} (joins : joint.Multiplicative)
    (h : Holds IsApplied tokens (operand, pending)) :
    Holds IsTerm tokens (closeBefore joint.text operand pending) ∧
      HeadBelow 2 (closeBefore joint.text operand pending).2 := by
  rw [closeBefore_eq_closeWhile]
  refine (arrives_isTerm ?_ ?_ h).result fun operator hlt => ?_
  · obtain ⟨-, text⟩ | ⟨-, text⟩ := joins <;> rw [text] <;> decide
  · obtain ⟨-, text⟩ | ⟨-, text⟩ := joins <;> rw [text] <;> decide
  · exact bindsLeft_of_strength_lt (strength_multiplicative joins ▸ hlt)

theorem holds_closeBefore_power {joint : Token} (raises : joint.Is .power "**")
    (h : Holds IsApplied tokens (operand, pending)) :
    Holds IsSigned tokens (closeBefore joint.text operand pending) ∧
      HeadBelow 4 (closeBefore joint.text operand pending).2 := by
  rw [closeBefore_eq_closeWhile, raises.2]
  exact (arrives_signs _ (h.mono .applied)).result fun operator _ => bindsLeft_power operator

end Results

/-! ## The invariant of the parser -/

/-- What the tokens read so far are, by the progress that the parser has made. -/
def Invariant (tokens : List Token) : Progress → Prop
  | ⟨pending, none⟩ => Spells pending tokens
  | ⟨pending, some operand⟩ => Holds IsApplied tokens (operand, pending)

/-- Whether a token that has been read keeps the invariant, or has been refused. -/
def Keeps (tokens : List Token) (token : Token) (outcome : Except Fault Progress) : Prop :=
  (∃ progress, outcome = .ok progress ∧ Invariant (tokens ++ [token]) progress) ∨
    outcome = .error (unexpected token)

/-! ### Where an operand is due -/

section Due

variable {tokens : List Token} {pending : List Pending} {token : Token}

/-- Reading a token where an operand is due. -/
theorem step_due (lexical : token.Lexical) (h : Spells pending tokens) :
    Keeps tokens token (step ⟨pending, none⟩ token) := by
  cases lexical with
  | number kind => exact .inl ⟨_, step_number kind, _, _, rfl, h, .primary (.number kind)⟩
  | name kind => exact .inl ⟨_, step_name kind, _, _, rfl, h, .primary (.name kind)⟩
  | opening opens => exact .inl ⟨_, step_group opens, .group h opens⟩
  | closing closes =>
      by_cases hcall : ∃ callee rest, pending = .call callee [] :: rest
      · obtain ⟨callee, rest, rfl⟩ := hcall
        cases h with
        | call below phrase opens begun =>
            cases begun
            refine .inl ⟨_, step_emptyCall closes, _, _, ?_, below, .empty phrase opens closes⟩
            simp
      · simp only [not_exists] at hcall
        exact .inr (step_due_closing_error closes hcall)
  | comma separates => exact .inr (step_due_comma separates)
  | additive joins => exact .inl ⟨_, step_sign joins, .sign h joins⟩
  | multiplicative joins => exact .inr (step_due_multiplicative joins)
  | power raises => exact .inr (step_due_power raises)

end Due

/-! ### Behind an operand -/

section Behind

variable {tokens : List Token} {pending : List Pending} {operand : Expr} {token : Token}

/-- Reading a closing parenthesis behind an operand. -/
theorem step_behind_closing (closes : token.Is .symbol ")")
    (h : Holds IsApplied tokens (operand, pending)) :
    Keeps tokens token (step ⟨pending, some operand⟩ token) := by
  obtain ⟨⟨before, after, rfl, hbefore, hafter⟩, hhead⟩ := holds_close h
  rw [step_closing closes]
  generalize close operand pending = closed at hbefore hafter hhead ⊢
  obtain ⟨inner, stack⟩ := closed
  cases hbefore with
  | empty => exact .inr rfl
  | sign => exact hhead.elim
  | sum | term | power => exact absurd hhead (Nat.not_lt.2 (one_le_strength _))
  | group below opens =>
      refine .inl ⟨_, rfl, _, _, ?_, below, .primary (.group opens hafter closes)⟩
      simp
  | call below phrase opens begun =>
      refine .inl ⟨_, rfl, _, _, ?_, below, .call phrase opens (begun.last hafter) closes⟩
      simp

/-- Reading a comma behind an operand. -/
theorem step_behind_comma (separates : token.Is .symbol ",")
    (h : Holds IsApplied tokens (operand, pending)) :
    Keeps tokens token (step ⟨pending, some operand⟩ token) := by
  obtain ⟨⟨before, after, rfl, hbefore, hafter⟩, hhead⟩ := holds_close h
  rw [step_comma separates]
  generalize close operand pending = closed at hbefore hafter hhead ⊢
  obtain ⟨inner, stack⟩ := closed
  cases hbefore with
  | empty => exact .inr rfl
  | sign => exact hhead.elim
  | sum | term | power => exact absurd hhead (Nat.not_lt.2 (one_le_strength _))
  | group below opens => exact .inr rfl
  | call below phrase opens begun =>
      refine .inl ⟨_, rfl, ?_⟩
      have := Spells.call below phrase opens (begun.more hafter separates)
      simpa [Invariant] using this

/-- Reading a token behind an operand. -/
theorem step_behind (lexical : token.Lexical) (h : Holds IsApplied tokens (operand, pending)) :
    Keeps tokens token (step ⟨pending, some operand⟩ token) := by
  cases lexical with
  | number kind => exact .inr (step_behind_number kind)
  | name kind => exact .inr (step_behind_name kind)
  | opening opens =>
      obtain ⟨before, after, rfl, hbefore, hafter⟩ := h
      refine .inl ⟨_, step_call opens, ?_⟩
      simpa [Invariant] using Spells.call hbefore hafter opens .none
  | closing closes => exact step_behind_closing closes h
  | comma separates => exact step_behind_comma separates h
  | additive joins =>
      obtain ⟨⟨before, after, rfl, hbefore, hafter⟩, hhead⟩ := holds_closeBefore_additive joins h
      refine .inl ⟨_, step_operator (.inl joins), ?_⟩
      simpa [Invariant] using Spells.sum hbefore hhead hafter joins
  | multiplicative joins =>
      obtain ⟨⟨before, after, rfl, hbefore, hafter⟩, hhead⟩ :=
        holds_closeBefore_multiplicative joins h
      refine .inl ⟨_, step_operator (.inr (.inl joins)), ?_⟩
      simpa [Invariant] using Spells.term hbefore hhead hafter joins
  | power raises =>
      obtain ⟨⟨before, after, rfl, hbefore, hafter⟩, hhead⟩ := holds_closeBefore_power raises h
      refine .inl ⟨_, step_operator (.inr (.inr raises)), ?_⟩
      simpa [Invariant] using Spells.power hbefore hhead hafter raises

end Behind

/-! ## Whole runs -/

/-- One token keeps the invariant, or is refused. -/
theorem step_keeps {tokens : List Token} {token : Token} (lexical : token.Lexical)
    {progress : Progress} (h : Invariant tokens progress) :
    Keeps tokens token (step progress token) := by
  match progress with
  | ⟨pending, none⟩ => exact step_due lexical h
  | ⟨pending, some operand⟩ => exact step_behind lexical h

/-- A run keeps the invariant, or ends at a token that is refused. -/
theorem run_keeps {later : List Token} (lexical : ∀ token ∈ later, token.Lexical) :
    ∀ {tokens : List Token} {progress : Progress}, Invariant tokens progress →
      (∃ stop, later.foldlM step progress = .ok stop ∧ Invariant (tokens ++ later) stop) ∨
        ∃ token ∈ later, later.foldlM step progress = .error (unexpected token) := by
  induction later with
  | nil =>
      intro tokens progress h
      exact .inl ⟨progress, rfl, by simpa using h⟩
  | cons token later ih =>
      intro tokens progress h
      rw [List.foldlM_cons]
      rcases step_keeps (lexical token List.mem_cons_self) h with ⟨next, hstep, hnext⟩ | hstep
      · rw [hstep]
        rcases ih (fun other hother => lexical other (List.mem_cons_of_mem _ hother)) hnext with
          ⟨stop, hrun, hstop⟩ | ⟨refused, hmem, hrun⟩
        · exact .inl ⟨stop, hrun, by simpa using hstop⟩
        · exact .inr ⟨refused, List.mem_cons_of_mem _ hmem, hrun⟩
      · rw [hstep]
        exact .inr ⟨token, List.mem_cons_self, rfl⟩

/-- What the parser makes of a list of lexical tokens: the tree of a sum, or a syntax error. -/
theorem ofTokens_spec {tokens : List Token} (lexical : ∀ token ∈ tokens, token.Lexical) :
    (∃ e, ofTokens tokens = .ok e ∧ IsSum tokens e) ∨
      ∃ fault, ofTokens tokens = .error fault ∧ fault.kind = .syntaxError := by
  rw [ofTokens]
  rcases run_keeps lexical (show Invariant [] ⟨[], none⟩ from .empty) with
    ⟨⟨pending, operand⟩, hrun, hstop⟩ | ⟨token, -, hrun⟩
  · rw [hrun]
    cases operand with
    | none => exact .inr ⟨.unexpectedEnd, rfl, rfl⟩
    | some operand =>
        obtain ⟨⟨before, after, htokens, hbefore, hafter⟩, -⟩ := holds_close hstop
        cases hstack : close operand pending with
        | mk tree stack =>
            rw [hstack] at hbefore hafter
            cases stack with
            | nil =>
                cases hbefore
                rw [List.nil_append, List.nil_append] at htokens
                exact .inl ⟨tree, finish_of_close_nil hstack, htokens ▸ hafter⟩
            | cons entry rest => exact .inr ⟨_, finish_of_close_cons hstack, rfl⟩
  · rw [hrun]
    exact .inr ⟨unexpected token, rfl, rfl⟩

end DeskCalculator.Grammar
