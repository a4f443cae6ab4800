import DeskCalculator.Proofs.Grammar.Parser
import DeskCalculator.Proofs.Surface.Rows

/-!
# The canonical form has the documented meaning

The canonical text of a surface tree is parsed as the tree that the
documentation assigns to it (`parse_canonical_text`).

## Strategy

Everything before the parser has been reduced to words: the canonical text of a
tree is the text of its finished words, and the scanner finds the tokens of
these.  So it remains to derive, for each tree and for each context that it may
stand in, that the tokens of its finished words are a phrase of the grammar with
the meaning of the tree (`Tree.HasPhrase`).  This goes by recursion on the tree;
at a binary operator the row of words is cut, and the context of the right
operand is read off the words of the left one.
-/

namespace DeskCalculator.Surface

open Text Entry Grammar

/-! ## Phrases by strength -/

/-- Whether tokens are a phrase that binds at least as strongly as `level`. -/
def IsPhrase (level : Nat) (tokens : List Token) (e : Expr) : Prop :=
  match level with
  | 0 | 1 => IsSum tokens e
  | 2 => IsTerm tokens e
  | 3 => IsPower tokens e
  | 4 => IsSigned tokens e
  | _ => IsApplied tokens e

theorem IsPhrase.of_succ {level : Nat} {tokens : List Token} {e : Expr}
    (h : IsPhrase (level + 1) tokens e) : IsPhrase level tokens e := by
  match level, h with
  | 0, h => exact h
  | 1, h => exact IsSum.term h
  | 2, h => exact IsTerm.power h
  | 3, h => exact IsPower.signed h
  | 4, h => exact IsSigned.applied h
  | _ + 5, h => exact h

theorem IsPhrase.weaken {least level : Nat} {tokens : List Token} {e : Expr}
    (hle : least ≤ level) (h : IsPhrase level tokens e) : IsPhrase least tokens e := by
  induction hle with
  | refl => exact h
  | step _ ih => exact ih h.of_succ

/-! ## Tokens of single words -/

theorem token_opening (position : Nat) :
    ((Word.mark .opening).token position).Is .symbol "(" := ⟨rfl, rfl⟩

theorem token_closing (position : Nat) :
    ((Word.mark .closing).token position).Is .symbol ")" := ⟨rfl, rfl⟩

theorem Word.Joins.token_sign {w : Word} {s : Sign} (h : w.Joins (.sign s)) (position : Nat) :
    (w.token position).Additive ∧ (w.token position).text = s.symbol := by
  rcases h with rfl | ⟨r, hr, rfl⟩
  · cases s with
    | plus => exact ⟨.inl ⟨rfl, rfl⟩, rfl⟩
    | minus => exact ⟨.inr ⟨rfl, rfl⟩, rfl⟩
  · cases hr
    cases s with
    | plus => exact ⟨.inl ⟨rfl, rfl⟩, rfl⟩
    | minus => exact ⟨.inr ⟨rfl, rfl⟩, rfl⟩

theorem Word.Joins.eq_mark {w : Word} {m : Mark} (h : w.Joins m) (hm : ∀ s, m ≠ .sign s) :
    w = .mark m := by
  rcases h with rfl | ⟨s, hs, -⟩
  · rfl
  · exact absurd hs (hm s)

/-! ## Literals -/

theorem value_token (n : Literal) (position : Nat) :
    ((Word.literal n).token position).value = n.value := by
  rw [Token.value, Word.token, String.toList_ofList, read_literal]
  rfl

theorem isPower_literal (n : Literal) (position : Nat) :
    IsPower [(Word.literal n).token position] (.number n.value) := by
  have hnumber := @IsPrimary.number ((Word.literal n).token position) rfl
  rw [value_token] at hnumber
  exact .signed (.applied (.primary hnumber))

/-- A row of words in parentheses. -/
theorem isApplied_group {inner : List Word} {e : Expr}
    (h : ∀ position, IsSum (tokens position inner) e) (position : Nat) :
    IsApplied (tokens position (.mark .opening :: (inner ++ [.mark .closing]))) e := by
  rw [tokens, tokens_append]
  exact .primary (.group (token_opening _) (h _) (token_closing _))

/-- The words of a percentage. -/
theorem isApplied_percentage (base : Option Literal) (share : Literal) (position : Nat) :
    IsApplied (tokens position (finished base false [.percentage share]))
      (percentageMeaning base share) := by
  cases base with
  | none =>
      refine @isApplied_group [.literal share, .mark .slash, .literal .hundred] _ (fun p => ?_) position
      exact .term (.join (.power (isPower_literal share _)) (.inr ⟨rfl, rfl⟩)
        (isPower_literal .hundred _))
  | some whole =>
      refine @isApplied_group [.literal whole, .spaced .star, .literal share, .spaced .slash,
        .literal .hundred] _ (fun p => ?_) position
      have hproduct : IsTerm (tokens p [.literal whole, .spaced .star, .literal share])
          (.operation (.number whole.value) "*" (.number share.value)) :=
        .join (.power (isPower_literal whole _)) (.inl ⟨rfl, rfl⟩) (isPower_literal share _)
      exact .term (.join hproduct (.inr ⟨rfl, rfl⟩) (isPower_literal .hundred _))

/-- A call with one argument. -/
theorem isApplied_call {f : Name} {inner : List Word} {e : Expr}
    (h : ∀ position, IsSum (tokens position inner) e) (position : Nat) :
    IsApplied (tokens position (.name f :: .mark .opening :: (inner ++ [.mark .closing])))
      (.call (.name (String.ofList f.letters)) [e]) := by
  have hname : IsApplied [(Word.name f).token position] (.name (String.ofList f.letters)) :=
    .primary (.name rfl)
  rw [tokens, tokens, tokens_append]
  exact .call hname (token_opening _) (.last (h _)) (token_closing _)

/-- The words of a factorial. -/
theorem isApplied_factorial (base : Option Literal) (negated : Bool) (n : Literal)
    (position : Nat) :
    IsApplied (tokens position (finished base negated [.factorial n]))
      (factorialMeaning negated n) := by
  have hshares : sharesBehind base [.factorial n] = [.factorial n] := by
    rw [sharesBehind_of_ne (by simp)]
    rfl
  have hname : String.ofList Name.factorial.letters = "factorial" := rfl
  unfold finished factorialMeaning
  rw [hshares, ← hname]
  cases negated with
  | false =>
      refine @isApplied_call .factorial [.literal n] _ (fun p => ?_) position
      exact .term (.power (isPower_literal n p))
  | true =>
      refine @isApplied_call .factorial [.mark (.sign .minus), .literal n] _ (fun p => ?_) position
      have hsigned : IsSigned [(Word.literal n).token (p + 1)] (.number n.value) := by
        have hnumber := @IsPrimary.number ((Word.literal n).token (p + 1)) rfl
        rw [value_token] at hnumber
        exact .applied (.primary hnumber)
      exact .term (.power (.signed (.sign (.inr ⟨rfl, rfl⟩) hsigned)))

/-! ## Phrases of trees -/

/-- Whether the tokens of a tree are a phrase with its meaning, in each context that it may stand
in. -/
def Tree.HasPhrase (t : Tree) : Prop :=
  ∀ base negated position, (negated = true → t.beginsWithFactorial = true) →
    IsPhrase t.level (tokens position (finished base negated t.words))
      (t.meaningBehind base negated)

namespace Tree

theorem hasPhrase_of_single {t : Tree} {w : Word} (hlevel : t.level = 5) (hwords : t.words = [w])
    (hbegins : t.beginsWithFactorial = false)
    (h : ∀ base position, IsApplied (tokens position (finished base false [w]))
      (t.meaningBehind base false)) : t.HasPhrase := by
  intro base negated position hnegated
  cases negated with
  | true => 
      rw [hbegins] at hnegated
      cases hnegated rfl
  | false =>
      rw [hlevel, hwords]
      exact h base position

/-- A word that no pass changes behind an operator. -/
theorem finished_single {base : Option Literal} {w : Word} (hkind : w.kind = .operand)
    (hpercentage : ∀ n, w ≠ .percentage n) (hfactorial : ∀ n, w ≠ .factorial n) :
    finished base false [w] = rewritten w := by
  have hshares : sharesBehind base [w] = [w] := by
    rw [sharesBehind_of_ne (by simpa using hpercentage)]
    cases w <;> rfl
  unfold finished
  rw [hshares]
  cases w with
  | percentage n => exact absurd rfl (hpercentage n)
  | factorial n => exact absurd rfl (hfactorial n)
  | mark m => cases m <;> cases hkind
  | spaced m => cases hkind
  | _ => rfl

theorem hasPhrase_literal (n : Literal) : (literal n).HasPhrase := by
  refine hasPhrase_of_single rfl rfl rfl fun base position => ?_
  rw [finished_single rfl (by simp) (by simp)]
  have hnumber := @IsPrimary.number ((Word.literal n).token position) rfl
  rw [value_token] at hnumber
  exact .primary hnumber

theorem hasPhrase_percentage (n : Literal) : (percentage n).HasPhrase :=
  hasPhrase_of_single rfl rfl rfl fun base position => isApplied_percentage base n position

theorem hasPhrase_factorial (n : Literal) : (factorial n).HasPhrase :=
  fun base negated position _ => isApplied_factorial base negated n position

theorem hasPhrase_circle : circle.HasPhrase := by
  refine hasPhrase_of_single rfl rfl rfl fun base position => ?_
  rw [finished_single rfl (by simp) (by simp)]
  exact .primary (.name rfl)

theorem hasPhrase_euler : euler.HasPhrase := by
  refine hasPhrase_of_single rfl rfl rfl fun base position => ?_
  rw [finished_single rfl (by simp) (by simp)]
  exact .primary (.name rfl)

theorem hasPhrase_name (n : Name) : (name n).HasPhrase := by
  refine hasPhrase_of_single rfl rfl rfl fun base position => ?_
  rw [finished_single rfl (by simp) (by simp)]
  exact .primary (.name rfl)

/-- A tree as a sum, with nothing that matters before it. -/
theorem HasPhrase.isSum {t : Tree} (h : t.HasPhrase) (position : Nat) :
    IsSum (tokens position (finished none false t.words)) (t.meaningBehind none false) := by
  have hphrase := h none false position (by simp)
  have hlevel : 1 ≤ t.level := by
    cases t with
    | operation left operator right => cases operator <;> simp [level, Operator.level]
    | _ => simp [level]
  exact hphrase.weaken hlevel

theorem HasPhrase.group {t : Tree} (h : t.HasPhrase) : (group t).HasPhrase := by
  intro base negated position hnegated
  cases negated with
  | true => cases hnegated rfl
  | false =>
      have hwords : finished base false (Tree.group t).words =
          .mark .opening :: (finished none false t.words ++ [.mark .closing]) := by
        rw [words, finished_opening, finished_closing t.row.ne_nil t.row.ended]
      rw [hwords]
      exact isApplied_group h.isSum position

theorem HasPhrase.within {t : Tree} (h : t.HasPhrase) (least : Nat) :
    (t.within least).HasPhrase := by
  unfold Tree.within
  split
  · exact h.group
  · exact h

private theorem le_level_within {t : Tree} {least : Nat} (hleast : least ≤ 5) :
    least ≤ (t.within least).level := by
  unfold Tree.within
  split
  · exact hleast
  · next hlevel => exact Nat.le_of_not_lt hlevel

theorem HasPhrase.operation {left right : Tree} {operator : Operator} (hleft : left.HasPhrase)
    (hright : right.HasPhrase) (hleftLevel : operator.leftLevel ≤ left.level)
    (hrightLevel : operator.rightLevel ≤ right.level) :
    (operation left operator right).HasPhrase := by
  intro base negated position hnegated
  have hmark : operator.mark ≠ .closing := by
    cases operator <;> simp [Operator.mark]
  have hbase : baseBehind left.words operator.mark = left.base? operator := by
    cases operator with
    | sign s => exact left.lastLiteral?_words
    | _ => rfl
  obtain ⟨joint, hjoint, hwords⟩ := @finished_joint base negated left.words right.words
    operator.mark left.row.ne_nil left.row.ended hmark
  have hfirst := (hleft base negated position hnegated).weaken hleftLevel
  have hsecond := fun p => (hright (left.base? operator) false p (by simp)).weaken hrightLevel
  rw [words, hwords, hbase, tokens_append, tokens, meaningBehind]
  cases operator with
  | sign s =>
      obtain ⟨hadditive, htext⟩ := hjoint.token_sign
        (position + (Surface.text (finished base negated left.words)).length)
      rw [show (Operator.sign s).symbol = _ from htext.symm]
      exact IsSum.join hfirst hadditive (hsecond _)
  | product =>
      obtain rfl := hjoint.eq_mark (by simp [Operator.mark, canonicalMark])
      exact IsTerm.join hfirst (.inl ⟨rfl, rfl⟩) (hsecond _)
  | quotient =>
      obtain rfl := hjoint.eq_mark (by simp [Operator.mark, canonicalMark])
      exact IsTerm.join hfirst (.inr ⟨rfl, rfl⟩) (hsecond _)
  | power =>
      obtain rfl := hjoint.eq_mark (by simp [Operator.mark, canonicalMark])
      exact IsPower.raise hfirst ⟨rfl, rfl⟩ (hsecond _)

theorem HasPhrase.sign {t : Tree} {s : Sign} (h : t.HasPhrase) (hlevel : 4 ≤ t.level) :
    (sign s t).HasPhrase := by
  intro base negated position hnegated
  cases negated with
  | true => cases hnegated rfl
  | false =>
      have hplain := fun p => (h none false p (by simp)).weaken hlevel
      rw [words, meaningBehind]
      cases s with
      | plus =>
          rw [finished_plus, if_neg (by simp), tokens]
          exact IsSigned.sign (.inl ⟨rfl, rfl⟩) (hplain _)
      | minus =>
          rw [finished_minus]
          by_cases hbegins : t.beginsWithFactorial = true
          · rw [if_pos ⟨rfl, hbegins⟩]
            exact (h none true position fun _ => hbegins).weaken hlevel
          · have hno : ∀ n, t.words.head? ≠ some (.factorial n) :=
              fun n hn => hbegins (t.head?_words.1 ⟨n, hn⟩)
            rw [if_neg fun hboth => hbegins hboth.2, finished_negated hno, tokens]
            exact IsSigned.sign (.inr ⟨rfl, rfl⟩) (hplain _)

/-- The arguments of a call. -/
theorem areArguments {first : Tree} {rest : List Tree}
    (h : ∀ t ∈ first :: rest, t.HasPhrase) (position : Nat) :
    AreArguments (tokens position (finished none false (separated (wordsOfAll (first :: rest)))))
      (meanings (first :: rest)) := by
  induction rest generalizing first position with
  | nil =>
      rw [wordsOfAll, wordsOfAll, separated_singleton, meanings, meanings]
      exact .last ((h first List.mem_cons_self).isSum position)
  | cons next more ih =>
      have hrest := ih fun t ht => h t (List.mem_cons_of_mem _ ht)
      obtain ⟨joint, hjoint, hwords⟩ := @finished_joint none false first.words
        (separated (wordsOfAll (next :: more))) .comma first.row.ne_nil first.row.ended (by simp)
      obtain rfl := hjoint.eq_mark (by simp [canonicalMark])
      rw [wordsOfAll, wordsOfAll, separated_cons_cons, ← wordsOfAll, hwords, tokens_append, tokens,
        meanings]
      exact .more ((h first List.mem_cons_self).isSum _) ⟨rfl, rfl⟩ (hrest _)

theorem HasPhrase.call {callee : Tree} {arguments : List Tree} (hcallee : callee.HasPhrase)
    (hlevel : 5 ≤ callee.level) (harguments : ∀ t ∈ arguments, t.HasPhrase) :
    (call callee arguments).HasPhrase := by
  intro base negated position hnegated
  obtain ⟨joint, hjoint, hwords⟩ := @finished_joint base negated callee.words
    (separated (wordsOfAll arguments) ++ [.mark .closing]) .opening callee.row.ne_nil
    callee.row.ended (by simp)
  obtain rfl := hjoint.eq_mark (by simp [canonicalMark])
  have hfirst := (hcallee base negated position hnegated).weaken hlevel
  have hbase : baseBehind callee.words .opening = none := rfl
  rw [words, hwords, hbase, tokens_append, tokens, meaningBehind]
  cases arguments with
  | nil => exact IsApplied.empty hfirst (token_opening _) (token_closing _)
  | cons t rest =>
      have hrow : IsOperandRow (separated (wordsOfAll (t :: rest))) :=
        isOperandRow_separated (rowsOfAll (t :: rest))
      rw [finished_closing hrow.ne_nil hrow.ended, tokens_append]
      exact IsApplied.call hfirst (token_opening _) (areArguments harguments _) (token_closing _)

mutual

/-- Every tree with the parentheses that it needs is a phrase with its meaning. -/
theorem hasPhrase_bracketed : ∀ t : Tree, t.bracketed.HasPhrase
  | literal n => hasPhrase_literal n
  | percentage n => hasPhrase_percentage n
  | factorial n => hasPhrase_factorial n
  | circle => hasPhrase_circle
  | euler => hasPhrase_euler
  | name n => hasPhrase_name n
  | sign s operand => (operand.hasPhrase_bracketed.within 4).sign (le_level_within (by decide))
  | operation left operator right =>
      (left.hasPhrase_bracketed.within operator.leftLevel).operation
        (right.hasPhrase_bracketed.within operator.rightLevel)
        (le_level_within operator.leftLevel_le) (le_level_within operator.rightLevel_le)
  | group inner => inner.hasPhrase_bracketed.group
  | call callee arguments =>
      (callee.hasPhrase_bracketed.within 5).call (le_level_within (by decide))
        (hasPhrase_bracketedAll arguments)

theorem hasPhrase_bracketedAll : ∀ trees : List Tree, ∀ t ∈ bracketedAll trees, t.HasPhrase
  | [] => by simp [bracketedAll]
  | t :: rest => by
      intro u hu
      rcases List.mem_cons.1 hu with rfl | hu
      · exact t.hasPhrase_bracketed
      · exact hasPhrase_bracketedAll rest u hu

end

end Tree

/-! ## The canonical form -/

/-- The canonical form of the text of a surface tree is parsed as the documented meaning of the
tree. -/
theorem parse_canonical_text (t : Tree) :
    Expr.parse (String.ofList (Entry.canonical t.text)) = .ok t.meaning := by
  have hrow := t.bracketed.row
  obtain ⟨hcanonical, happart⟩ := canonical_text hrow.apart hrow.typed
  have hscan := scan_text happart isCanonical_of_mem_canonicalWords 0
  have hsum := t.hasPhrase_bracketed.isSum 0
  rw [← canonicalWords_eq_finished] at hsum
  have htokens : Token.ofText (String.ofList (Entry.canonical t.text)) =
      .ok (tokens 0 (canonicalWords t.bracketed.words)) := by
    rw [Token.ofText, String.toList_ofList, Tree.text, hcanonical, hscan]
  rw [Expr.parse, htokens]
  exact ofTokens_of_isSum hsum

end DeskCalculator.Surface
