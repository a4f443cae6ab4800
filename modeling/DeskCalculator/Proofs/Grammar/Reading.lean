import DeskCalculator.Proofs.Grammar.Closing

/-!
# Every phrase is read as its tree

This file proves that the parser accepts each sum of the grammar and returns its
tree (`ofTokens_of_isSum`).

## Strategy

A phrase is read from any progress in which an operand is due, whatever is
pending there.  What the parser holds afterwards need not be the tree of the
phrase, as operations of the phrase may still be pending; but closing gives the
same as if the parser held that tree, for every test that the operators of the
phrase pass.  `Gives` states this, and each level of the grammar fixes the tests
and what must not be pending in front of it:

* a signed operand asks nothing;
* a power must not stand behind a sign, and the test must pass `**`;
* a term must not stand behind a product or a power either, and the test must
  pass `*` and `/` too;
* a sum must stand behind a bracket, or at the start.
-/

namespace DeskCalculator.Grammar

open DeskCalculator.Expr

/-! ## Runs of the parser -/

/-- Reading these tokens leads from one progress to another. -/
def Reads (tokens : List Token) (start stop : Progress) : Prop :=
  tokens.foldlM step start = .ok stop

theorem Reads.nil (progress : Progress) : Reads [] progress progress := rfl

theorem Reads.cons {token : Token} {tokens : List Token} {start next stop : Progress}
    (first : step start token = .ok next) (others : Reads tokens next stop) :
    Reads (token :: tokens) start stop := by
  rw [Reads, List.foldlM_cons, first]
  exact others

theorem Reads.append {before after : List Token} {start next stop : Progress}
    (first : Reads before start next) (second : Reads after next stop) :
    Reads (before ++ after) start stop := by
  rw [Reads, List.foldlM_append, show before.foldlM step start = .ok next from first]
  exact second

theorem Reads.single {token : Token} {start stop : Progress} (h : step start token = .ok stop) :
    Reads [token] start stop :=
  .cons h (.nil stop)

/-! ## What a phrase leaves behind -/

/-- From this stack the tokens are read as an operand that closes like `e`, for every test that
holds of the operators that are at least as strong as `level`. -/
def Gives (level : Nat) (tokens : List Token) (e : Expr) (pending : List Pending) : Prop :=
  ∃ behind operand, Reads tokens ⟨pending, none⟩ ⟨behind, some operand⟩ ∧
    ∀ test : String → Bool, (∀ operator, level ≤ strength operator → test operator = true) →
      closeWhile test operand behind = closeWhile test e pending

theorem Gives.mono {small large : Nat} (hle : small ≤ large) {tokens : List Token} {e : Expr}
    {pending : List Pending} (h : Gives large tokens e pending) :
    Gives small tokens e pending := by
  obtain ⟨behind, operand, hreads, hcloses⟩ := h
  exact ⟨behind, operand, hreads, fun test htest =>
    hcloses test fun operator hlevel => htest operator (Nat.le_trans hle hlevel)⟩

/-- An operator that groups to the left, with both its operands. -/
theorem Gives.join {level : Nat} {before after : List Token} {first second : Expr} {joint : Token}
    {pending : List Pending} (binary : IsOperator joint)
    (hlevel : strength joint.text = level) (hleft : level < 3) (left : Gives level before first pending)
    (hhead : HeadBelow level pending)
    (right : Gives (level + 1) after second (.operation first joint.text :: pending)) :
    Gives level (before ++ joint :: after) (.operation first joint.text second) pending := by
  obtain ⟨behindFirst, operandFirst, hreadsFirst, hclosesFirst⟩ := left
  obtain ⟨behind, operand, hreads, hcloses⟩ := right
  have hjoint : joint.text ≠ "**" := by
    rintro htext
    rw [htext] at hlevel
    exact absurd (hlevel ▸ hleft) (by decide)
  have hbefore : closeBefore joint.text operandFirst behindFirst = (first, pending) := by
    rw [closeBefore_eq_closeWhile, hclosesFirst]
    · refine closeWhile_of_headBelow (fun operator hlt => ?_) hhead first
      exact bindsLeft_of_strength_lt (hlevel ▸ hlt)
    · exact fun operator hle => bindsLeft_of_strength_le hjoint (hlevel ▸ hle)
  have hstep : step ⟨behindFirst, some operandFirst⟩ joint =
      .ok ⟨.operation first joint.text :: pending, none⟩ := by
    rw [step_operator binary, hbefore]
  refine ⟨behind, operand, hreadsFirst.append (.cons hstep hreads), fun test htest => ?_⟩
  rw [hcloses test fun operator hle => htest operator (by omega)]
  simp [closeWhile, htest joint.text (Nat.le_of_eq hlevel.symm)]

/-- A power sign, with its base and its exponent. -/
theorem Gives.raise {before after : List Token} {base exponent : Expr} {joint : Token}
    {pending : List Pending} (left : Gives 4 before base pending) (sign : joint.Is .power "**")
    (hhead : HeadBelow 4 pending)
    (right : Gives 3 after exponent (.operation base joint.text :: pending)) :
    Gives 3 (before ++ joint :: after) (.operation base joint.text exponent) pending := by
  obtain ⟨behindBase, operandBase, hreadsBase, hclosesBase⟩ := left
  obtain ⟨behind, operand, hreads, hcloses⟩ := right
  -- only signs bind the base more tightly than the power sign, and none is pending
  have hbefore : closeBefore joint.text operandBase behindBase = (base, pending) := by
    rw [closeBefore_eq_closeWhile, hclosesBase]
    · refine closeWhile_of_headBelow (fun operator _ => ?_) hhead base
      rw [sign.2]
      exact bindsLeft_power operator
    · intro operator hle
      have := strength_le_three operator
      omega
  have hstep : step ⟨behindBase, some operandBase⟩ joint =
      .ok ⟨.operation base joint.text :: pending, none⟩ := by
    rw [step_operator (.inr (.inr sign)), hbefore]
  have hlevel : 3 ≤ strength joint.text := Nat.le_of_eq (strength_power sign).symm
  refine ⟨behind, operand, hreadsBase.append (.cons hstep hreads), fun test htest => ?_⟩
  rw [hcloses test htest]
  simp [closeWhile, htest joint.text hlevel]

/-! ## The levels of the grammar -/

mutual

theorem IsSum.gives {tokens : List Token} {e : Expr} : IsSum tokens e →
    ∀ pending, HeadBelow 1 pending → Gives 1 tokens e pending
  | .term term => fun pending hhead =>
      (term.gives pending (hhead.mono (by decide))).mono (by decide)
  | .join left joins right => by
      intro pending hhead
      have hlevel := strength_additive joins
      exact (left.gives pending hhead).join (.inl joins) hlevel (by decide) hhead
        (right.gives _ (headBelow_operation (by omega)))

theorem IsTerm.gives {tokens : List Token} {e : Expr} : IsTerm tokens e →
    ∀ pending, HeadBelow 2 pending → Gives 2 tokens e pending
  | .power power => fun pending hhead =>
      (power.gives pending (hhead.mono (by decide))).mono (by decide)
  | .join left joins right => by
      intro pending hhead
      have hlevel := strength_multiplicative joins
      exact (left.gives pending hhead).join (.inr (.inl joins)) hlevel (by decide) hhead
        (right.gives _ (headBelow_operation (by omega)))

theorem IsPower.gives {tokens : List Token} {e : Expr} : IsPower tokens e →
    ∀ pending, HeadBelow 4 pending → Gives 3 tokens e pending
  | .signed signed => fun pending _ => (signed.gives pending).mono (by decide)
  | .raise left raises right => fun pending hhead =>
      (left.gives pending).raise raises hhead
        (right.gives _ (Nat.lt_succ_of_le (strength_le_three _)))

theorem IsSigned.gives {tokens : List Token} {e : Expr} : IsSigned tokens e →
    ∀ pending, Gives 4 tokens e pending
  | .applied applied => fun pending => ⟨pending, e, applied.reads pending, fun _ _ => rfl⟩
  | .sign additive signed => by
      intro pending
      obtain ⟨behind, operand, hreads, hcloses⟩ := signed.gives (.sign _ :: pending)
      exact ⟨behind, operand, .cons (step_sign additive) hreads, hcloses⟩

theorem IsApplied.reads {tokens : List Token} {e : Expr} : IsApplied tokens e →
    ∀ pending, Reads tokens ⟨pending, none⟩ ⟨pending, some e⟩
  | .primary primary => primary.reads
  | .empty applied opens closes => fun pending =>
      (applied.reads pending).append
        (.cons (step_call opens) (.single (step_emptyCall closes)))
  | .call applied opens given closes => by
      intro pending
      obtain ⟨behind, last, done, operand, hreads, hclose, hlist⟩ := given.reads _ [] pending
      refine (applied.reads pending).append (.cons (step_call opens) (hreads.append (.single ?_)))
      rw [step_closing closes, hclose]
      simpa using hlist

theorem IsPrimary.reads {tokens : List Token} {e : Expr} : IsPrimary tokens e →
    ∀ pending, Reads tokens ⟨pending, none⟩ ⟨pending, some e⟩
  | .number kind => fun _ => .single (step_number kind)
  | .name kind => fun _ => .single (step_name kind)
  | .group opens sum closes => by
      intro pending
      obtain ⟨behind, operand, hreads, hcloses⟩ := sum.gives (.group :: pending) trivial
      refine .cons (step_group opens) (hreads.append (.single ?_))
      rw [step_closing closes, close_eq_closeWhile, hcloses _ fun _ _ => rfl]
      rfl

theorem AreArguments.reads {tokens : List Token} {given : List Expr} : AreArguments tokens given →
    ∀ callee sofar pending, ∃ behind last done operand,
      Reads tokens ⟨.call callee sofar :: pending, none⟩ ⟨behind, some operand⟩ ∧
        close operand behind = (last, .call callee done :: pending) ∧
        (last :: done).reverse = sofar.reverse ++ given
  | @AreArguments.last _ last sum => by
      intro callee sofar pending
      obtain ⟨behind, operand, hreads, hcloses⟩ := sum.gives (.call callee sofar :: pending) trivial
      refine ⟨behind, last, sofar, operand, hreads, ?_, by simp⟩
      rw [close_eq_closeWhile, hcloses _ fun _ _ => rfl]
      rfl
  | .more sum separates rest => by
      intro callee sofar pending
      obtain ⟨behindFirst, operandFirst, hreadsFirst, hclosesFirst⟩ :=
        sum.gives (.call callee sofar :: pending) trivial
      obtain ⟨behind, last, done, operand, hreads, hclose, hlist⟩ :=
        rest.reads callee (_ :: sofar) pending
      refine ⟨behind, last, done, operand, hreadsFirst.append (.cons ?_ hreads), hclose, ?_⟩
      · rw [step_comma separates, close_eq_closeWhile, hclosesFirst _ fun _ _ => rfl]
        rfl
      · simpa using hlist

end

/-- The parser returns the tree of every sum. -/
theorem ofTokens_of_isSum {tokens : List Token} {e : Expr} (h : IsSum tokens e) :
    ofTokens tokens = .ok e := by
  obtain ⟨behind, operand, hreads, hcloses⟩ := h.gives [] trivial
  have hclose : close operand behind = (e, []) := by
    rw [close_eq_closeWhile, hcloses _ fun _ _ => rfl]
    rfl
  rw [ofTokens, show tokens.foldlM step ⟨[], none⟩ = .ok ⟨behind, some operand⟩ from hreads]
  exact finish_of_close_nil hclose

end DeskCalculator.Grammar
