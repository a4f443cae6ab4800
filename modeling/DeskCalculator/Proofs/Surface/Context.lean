import DeskCalculator.Proofs.Surface.Scanning
import DeskCalculator.Proofs.Surface.Tree

/-!
# Rewriting a part of an entry

What the passes make of a part of an entry depends on what stands directly
before it: a literal and a sign, of which a leading percentage is a share, or a
unary minus that belongs to a leading factorial.  `finished` takes this context
as arguments.  A row of words that is cut at a mark behind an operand can then
be finished piece by piece (`finished_joint`).
-/

namespace DeskCalculator.Surface

open Text Entry

/-! ## Canonical words in a context -/

/-- What the passes that look at single words make of a word. -/
def rewritten : Word → List Word
  | .percentage n =>
    [.mark .opening, .literal n, .mark .slash, .literal .hundred, .mark .closing]
  | .circle => [.name .circle]
  | .euler => [.name .euler]
  | .mark m => [.mark (canonicalMark m)]
  | .spaced m => [.spaced (canonicalMark m)]
  | w => [w]

/-- `shares` behind a literal and a sign, if there is a base. -/
def sharesBehind : Option Literal → List Word → List Word
  | some base, .percentage share :: rest => portion base share ++ shares rest
  | _, words => shares words

/-- A unary minus, if there is one. -/
def minusIf (negated : Bool) : List Word :=
  if negated then [.mark (.sign .minus)] else []

/-- The canonical words of a row of words, behind a literal and a sign or behind a minus. -/
def finished (base : Option Literal) (negated : Bool) (words : List Word) : List Word :=
  factorials false (minusIf negated ++ (sharesBehind base words).flatMap rewritten)

theorem canonicalWords_eq_finished (words : List Word) :
    canonicalWords words = finished none false words := by
  have hsingle : ∀ w, (((hundredths w).flatMap nameCircle).flatMap nameEuler).flatMap doublePower =
      rewritten w := by
    intro w
    cases w <;> rfl
  unfold canonicalWords finished
  rw [List.flatMap_assoc, List.flatMap_assoc, List.flatMap_assoc]
  simp only [← List.flatMap_assoc, hsingle]
  rfl

/-! ## Cutting a row of words -/

/-- The literal at the end of a row of words. -/
def lastLiteral? (words : List Word) : Option Literal :=
  match words.getLast? with
  | some (.literal n) => some n
  | _ => none

/-- Whether an operand has ended behind a row of words, before which one `ended` or not. -/
def endsBehind (ended : Bool) (words : List Word) : Bool :=
  words.getLast?.elim ended Word.endsOperand

/-- The literal that a percentage behind a mark is a share of. -/
def baseBehind (words : List Word) : Mark → Option Literal
  | .sign _ => lastLiteral? words
  | _ => none

theorem endsBehind_cons (ended : Bool) (w : Word) (words : List Word) :
    endsBehind ended (w :: words) = endsBehind w.endsOperand words := by
  unfold endsBehind
  rw [List.getLast?_cons]
  cases words.getLast? <;> rfl

theorem factorials_append {ended : Bool} {first second : List Word}
    (hended : endsBehind ended first = true) :
    factorials ended (first ++ second) = factorials ended first ++ factorials true second := by
  fun_induction factorials ended first with
  | case1 ended =>
      rw [show ended = true from hended]
      rfl
  | case2 ended n rest ih =>
      rw [endsBehind_cons, endsBehind_cons] at hended
      rw [List.cons_append, List.cons_append, factorials, ih hended, List.append_assoc]
  | case3 ended n rest ih =>
      rw [endsBehind_cons] at hended
      rw [List.cons_append, factorials, ih hended, List.append_assoc]
  | case4 ended w rest hminus hfactorial ih =>
      rw [endsBehind_cons] at hended
      rw [List.cons_append, factorials, ih hended, List.cons_append]
      · rintro n others rfl hothers
        cases rest with
        | nil => cases hended
        | cons v more => exact hminus n more rfl (by rw [(List.cons.inj hothers).1])
      · exact hfactorial

/-- Whether a word is this mark, perhaps between blanks if it is a sign. -/
def Word.Joins (w : Word) (m : Mark) : Prop :=
  w = .mark m ∨ ∃ s, m = .sign s ∧ w = .spaced (.sign s)

theorem shares_cons {w : Word} {rest : List Word}
    (hno : ∀ base s share tail, w = .literal base →
      rest = .mark (.sign s) :: .percentage share :: tail → False) :
    shares (w :: rest) = w :: shares rest := by
  rw [shares]
  exact fun base s share tail hw hrest => hno base s share tail hw hrest

private theorem lastLiteral?_cons_cons (v w : Word) (words : List Word) :
    lastLiteral? (v :: w :: words) = lastLiteral? (w :: words) := by
  unfold lastLiteral?
  rw [List.getLast?_cons_cons]

theorem baseBehind_cons_cons (v w : Word) (words : List Word) (m : Mark) :
    baseBehind (v :: w :: words) m = baseBehind (w :: words) m := by
  cases m with
  | sign s => exact lastLiteral?_cons_cons v w words
  | _ => rfl

theorem sharesBehind_none (words : List Word) : sharesBehind none words = shares words := by
  unfold sharesBehind
  rfl

theorem endsBehind_of_rest {v : Word} {rest : List Word}
    (h : endsBehind true (v :: rest) = true) : endsBehind true rest = true := by
  rw [endsBehind_cons] at h
  cases rest with
  | nil => rfl
  | cons w more => rwa [endsBehind_cons] at h ⊢

private theorem shares_singleton_append {w : Word} {m : Mark} {second : List Word} :
    ∃ joint : Word, joint.Joins m ∧
      shares (w :: .mark m :: second) = w :: joint :: sharesBehind (baseBehind [w] m) second := by
  by_cases hmatch : ∃ base s share tail, w = .literal base ∧ m = .sign s ∧
      second = .percentage share :: tail
  · obtain ⟨base, s, share, tail, rfl, rfl, rfl⟩ := hmatch
    exact ⟨.spaced (.sign s), .inr ⟨s, rfl, rfl⟩, rfl⟩
  · have hplain : sharesBehind (baseBehind [w] m) second = shares second := by
      unfold sharesBehind
      split
      · next base share tail hbase =>
          cases m with
          | sign s =>
              cases w with
              | literal n => exact absurd ⟨n, s, share, tail, rfl, rfl, rfl⟩ hmatch
              | _ => cases hbase
          | _ => cases hbase
      · rfl
    refine ⟨.mark m, .inl rfl, ?_⟩
    rw [hplain, shares_cons, shares_cons]
    · intro base s share tail hw
      cases hw
    · rintro base s share tail rfl hrest
      cases hrest
      exact hmatch ⟨base, s, share, tail, rfl, rfl, rfl⟩

/-- The first pass can be cut at a mark behind an operand. -/
theorem shares_joint {first second : List Word} {m : Mark} (hended : endsBehind true first = true) :
    ∃ joint : Word, joint.Joins m ∧
      shares (first ++ .mark m :: second) =
        shares first ++ joint :: sharesBehind (baseBehind first m) second := by
  fun_induction shares first with
  | case1 =>
      refine ⟨.mark m, .inl rfl, ?_⟩
      have hbase : baseBehind [] m = none := by
        cases m <;> rfl
      rw [hbase, sharesBehind_none, List.nil_append, shares_cons]
      · rfl
      · intro base s share tail hw
        cases hw
  | case2 base s share rest ih =>
      have hrest : endsBehind true rest = true :=
        endsBehind_of_rest (endsBehind_of_rest (endsBehind_of_rest hended))
      obtain ⟨joint, hjoint, hshares⟩ := ih hrest
      have hbase : baseBehind (.literal base :: .mark (.sign s) :: .percentage share :: rest) m =
          baseBehind rest m := by
        rw [baseBehind_cons_cons, baseBehind_cons_cons]
        cases rest with
        | nil => cases m <;> rfl
        | cons w more => exact baseBehind_cons_cons _ _ _ _
      refine ⟨joint, hjoint, ?_⟩
      rw [hbase, List.cons_append, List.cons_append, List.cons_append, shares, hshares]
      simp
  | case3 w rest hno ih =>
      cases rest with
      | nil =>
          obtain ⟨joint, hjoint, hshares⟩ := @shares_singleton_append w m second
          exact ⟨joint, hjoint, hshares⟩
      | cons v more =>
          obtain ⟨joint, hjoint, hshares⟩ := ih (endsBehind_of_rest hended)
          refine ⟨joint, hjoint, ?_⟩
          rw [baseBehind_cons_cons, List.cons_append, shares_cons, hshares]
          · rfl
          · intro base s share tail hw hrest
            cases more with
            | nil =>
                obtain ⟨rfl, -⟩ := List.cons.inj hrest
                rw [endsBehind_cons, endsBehind_cons] at hended
                cases hended
            | cons u others =>
                obtain ⟨hv, htail⟩ := List.cons.inj hrest
                obtain ⟨hu, -⟩ := List.cons.inj htail
                exact hno base s share others hw (by rw [hv, hu])

theorem sharesBehind_of_ne {base : Option Literal} {words : List Word}
    (hno : ∀ share, words.head? ≠ some (.percentage share)) :
    sharesBehind base words = shares words := by
  unfold sharesBehind
  split
  · next share rest => exact absurd rfl (hno share)
  · rfl

theorem sharesBehind_joint {base : Option Literal} {first second : List Word} {m : Mark}
    (hne : first ≠ []) (hended : endsBehind true first = true) :
    ∃ joint : Word, joint.Joins m ∧
      sharesBehind base (first ++ .mark m :: second) =
        sharesBehind base first ++ joint :: sharesBehind (baseBehind first m) second := by
  by_cases hmatch : ∃ whole share rest, base = some whole ∧ first = .percentage share :: rest
  · obtain ⟨whole, share, rest, rfl, rfl⟩ := hmatch
    obtain ⟨joint, hjoint, hshares⟩ := @shares_joint rest second m (endsBehind_of_rest hended)
    have hbase : baseBehind (.percentage share :: rest) m = baseBehind rest m := by
      cases rest with
      | nil => cases m <;> rfl
      | cons w more => exact baseBehind_cons_cons _ _ _ _
    refine ⟨joint, hjoint, ?_⟩
    rw [hbase, List.cons_append, sharesBehind, hshares, sharesBehind, List.append_assoc]
  · obtain ⟨joint, hjoint, hshares⟩ := @shares_joint first second m hended
    refine ⟨joint, hjoint, ?_⟩
    cases base with
    | none => rw [sharesBehind_none, sharesBehind_none, hshares]
    | some whole =>
        have hno : ∀ share, first.head? ≠ some (.percentage share) := by
          intro share hhead
          obtain ⟨rest, hrest⟩ := List.head?_eq_some_iff.1 hhead
          exact hmatch ⟨whole, share, rest, rfl, hrest⟩
        have hno' : ∀ share, (first ++ Word.mark m :: second).head? ≠ some (.percentage share) := by
          intro share
          rw [List.head?_append_of_ne_nil _ hne]
          exact hno share
        rw [sharesBehind_of_ne hno, sharesBehind_of_ne hno', hshares]

/-! ## Operands stay ended -/

theorem endsBehind_append {ended : Bool} {first second : List Word} :
    endsBehind ended (first ++ second) = endsBehind (endsBehind ended first) second := by
  induction first generalizing ended with
  | nil => rfl
  | cons w rest ih => rw [List.cons_append, endsBehind_cons, endsBehind_cons, ih]

theorem endsBehind_rewritten (ended : Bool) (w : Word) :
    endsBehind ended (rewritten w) = w.endsOperand := by
  cases w with
  | mark m => cases m <;> rfl
  | _ => rfl

theorem endsBehind_flatMap {ended : Bool} {words : List Word} :
    endsBehind ended (words.flatMap rewritten) = endsBehind ended words := by
  induction words generalizing ended with
  | nil => rfl
  | cons w rest ih =>
      rw [List.flatMap_cons, endsBehind_append, endsBehind_rewritten, ih, endsBehind_cons]

theorem endsBehind_shares {ended : Bool} {words : List Word} :
    endsBehind ended (shares words) = endsBehind ended words := by
  fun_induction shares words generalizing ended with
  | case1 => rfl
  | case2 base s share rest ih =>
      have hportion : ∀ ended, endsBehind ended (portion base share) = true := fun _ => rfl
      rw [endsBehind_cons, endsBehind_cons, endsBehind_append, hportion, ih, endsBehind_cons,
        endsBehind_cons, endsBehind_cons]
      rfl
  | case3 w rest _ ih => rw [endsBehind_cons, ih, endsBehind_cons]

theorem endsBehind_sharesBehind {ended : Bool} {base : Option Literal} {words : List Word} :
    endsBehind ended (sharesBehind base words) = endsBehind ended words := by
  unfold sharesBehind
  split
  · next whole share rest =>
      have hportion : ∀ ended, endsBehind ended (portion whole share) = true := fun _ => rfl
      rw [endsBehind_append, hportion, endsBehind_shares, endsBehind_cons]
      rfl
  · exact endsBehind_shares

/-! ## Finishing piece by piece -/

private theorem factorials_true_cons {w : Word} {rest : List Word}
    (hw : ∀ n, w ≠ .factorial n) (hended : w.endsOperand = false) :
    factorials true (w :: rest) = w :: factorials false rest := by
  by_cases hmatch : ∃ n tail, w = .mark (.sign .minus) ∧ rest = .factorial n :: tail
  · obtain ⟨n, tail, rfl, rfl⟩ := hmatch
    rfl
  · rw [factorials, hended]
    · exact fun n tail hminus hrest => hmatch ⟨n, tail, hminus, hrest⟩
    · exact fun n hn => hw n hn

theorem Word.Joins.rewritten {joint : Word} {m : Mark} (h : joint.Joins m) :
    ∃ w : Word, w.Joins (canonicalMark m) ∧ rewritten joint = [w] := by
  rcases h with rfl | ⟨s, rfl, rfl⟩
  · exact ⟨_, .inl rfl, rfl⟩
  · exact ⟨_, .inr ⟨s, rfl, rfl⟩, rfl⟩

theorem endsBehind_finishing {base : Option Literal} {negated : Bool} {words : List Word}
    (hne : words ≠ []) (hended : endsBehind true words = true) :
    endsBehind false (minusIf negated ++ (sharesBehind base words).flatMap rewritten) = true := by
  rw [endsBehind_append, endsBehind_flatMap, endsBehind_sharesBehind]
  cases words with
  | nil => exact absurd rfl hne
  | cons w rest => rwa [endsBehind_cons] at hended ⊢

/-- A row of words is finished in two pieces, before and behind a mark that follows an operand. -/
theorem finished_joint {base : Option Literal} {negated : Bool} {first second : List Word}
    {m : Mark} (hne : first ≠ []) (hended : endsBehind true first = true) (hm : m ≠ .closing) :
    ∃ joint : Word, joint.Joins (canonicalMark m) ∧
      finished base negated (first ++ .mark m :: second) =
        finished base negated first ++ joint :: finished (baseBehind first m) false second := by
  obtain ⟨joint, hjoint, hshares⟩ := @sharesBehind_joint base first second m hne hended
  obtain ⟨w, hw, hrewritten⟩ := hjoint.rewritten
  refine ⟨w, hw, ?_⟩
  have hw_ne : ∀ n, w ≠ .factorial n := by
    rintro n rfl
    rcases hw with hw | ⟨s, -, hw⟩ <;> cases hw
  have hw_ended : w.endsOperand = false := by
    rcases hw with rfl | ⟨s, -, rfl⟩
    · cases m with
      | closing => exact absurd rfl hm
      | _ => rfl
    · rfl
  unfold finished
  rw [hshares, List.flatMap_append, List.flatMap_cons, hrewritten, ← List.append_assoc,
    factorials_append (endsBehind_finishing hne hended), List.singleton_append,
    factorials_true_cons hw_ne hw_ended]
  rfl

/-- A closing parenthesis behind an operand stays. -/
theorem finished_closing {base : Option Literal} {negated : Bool} {first : List Word}
    (hne : first ≠ []) (hended : endsBehind true first = true) :
    finished base negated (first ++ [.mark .closing]) =
      finished base negated first ++ [.mark .closing] := by
  obtain ⟨joint, hjoint, hshares⟩ := @sharesBehind_joint base first [] .closing hne hended
  have hclosing : joint = .mark .closing := by
    rcases hjoint with rfl | ⟨s, hs, -⟩
    · rfl
    · cases hs
  have hnil : sharesBehind (baseBehind first .closing) [] = [] := rfl
  unfold finished
  rw [hshares, hclosing, hnil, List.flatMap_append, ← List.append_assoc,
    factorials_append (endsBehind_finishing hne hended)]
  rfl

/-- Directly behind an opening parenthesis nothing is taken along. -/
theorem finished_opening {base : Option Literal} {words : List Word} :
    finished base false (.mark .opening :: words) = .mark .opening :: finished none false words := by
  have hshares : sharesBehind base (.mark .opening :: words) =
      .mark .opening :: sharesBehind none words := by
    rw [sharesBehind_of_ne (by simp), shares_cons (by simp), sharesBehind_none]
  unfold finished
  rw [hshares]
  rfl

/-- Behind a sign nothing can be a share. -/
theorem sharesBehind_sign {base : Option Literal} {s : Sign} {words : List Word} :
    sharesBehind base (.mark (.sign s) :: words) = .mark (.sign s) :: sharesBehind none words := by
  rw [sharesBehind_of_ne (by simp), shares_cons (by simp), sharesBehind_none]

theorem finished_plus {base : Option Literal} {words : List Word} :
    finished base false (.mark (.sign .plus) :: words) =
      .mark (.sign .plus) :: finished none false words := by
  unfold finished
  rw [sharesBehind_sign]
  rfl

theorem finished_minus {base : Option Literal} {words : List Word} :
    finished base false (.mark (.sign .minus) :: words) = finished none true words := by
  unfold finished
  rw [sharesBehind_sign]
  rfl

private theorem head?_rewritten {w : Word} {n : Literal}
    (h : (rewritten w).head? = some (.factorial n)) :
    w = .factorial n := by
  cases w <;> cases h
  rfl

/-- Without a factorial a minus stays where it is. -/
theorem finished_negated {words : List Word} (hno : ∀ n, words.head? ≠ some (.factorial n)) :
    finished none true words = .mark (.sign .minus) :: finished none false words := by
  have hhead : ∀ n, ((sharesBehind none words).flatMap rewritten).head? ≠ some (.factorial n) := by
    intro n hn
    rw [sharesBehind_none] at hn
    have hshares := head?_shares words
    cases hcases : shares words with
    | nil =>
        rw [hcases] at hn
        cases hn
    | cons w rest =>
        rw [hcases] at hn hshares
        rw [List.flatMap_cons, List.head?_append_of_ne_nil _ (by cases w <;> simp [rewritten])] at hn
        rw [head?_rewritten hn] at hshares
        exact hno n hshares.symm
  unfold finished
  generalize (sharesBehind none words).flatMap rewritten = canonical at hhead
  have hcons : factorials false (.mark (.sign .minus) :: canonical) =
      .mark (.sign .minus) :: factorials false canonical := by
    rw [factorials]
    · rfl
    · rintro n rest - rfl
      exact hhead n rfl
    · simp
  exact hcons

/-! ## Nothing is left over -/

private theorem isCanonical_of_mem_rewritten {v w : Word} (hw : w ∈ rewritten v) :
    w.IsCanonical ∨ ∃ n, w = .factorial n := by
  have hmark : ∀ m, canonicalMark m ≠ .caret := by
    intro m
    cases m <;> simp [canonicalMark]
  cases v with
  | percentage n =>
      left
      simp only [rewritten, List.mem_cons, List.not_mem_nil, or_false] at hw
      rcases hw with rfl | rfl | rfl | rfl | rfl <;> simp [Word.IsCanonical]
  | factorial n => exact .inr ⟨n, List.mem_singleton.1 hw⟩
  | mark m =>
      rw [List.mem_singleton.1 hw]
      exact .inl (hmark m)
  | spaced m =>
      rw [List.mem_singleton.1 hw]
      exact .inl (hmark m)
  | _ =>
      rw [List.mem_singleton.1 hw]
      exact .inl trivial

private theorem isCanonical_of_mem_factorialCall {sign : List Word} {n : Literal}
    (hsign : ∀ w ∈ sign, w.IsCanonical) {w : Word} (hw : w ∈ factorialCall sign n) :
    w.IsCanonical := by
  simp only [factorialCall, List.mem_cons, List.mem_append, List.not_mem_nil, or_false] at hw
  rcases hw with rfl | rfl | hw | rfl | rfl
  · trivial
  · simp [Word.IsCanonical]
  · exact hsign w hw
  · trivial
  · simp [Word.IsCanonical]

private theorem isCanonical_of_mem_factorials {ended : Bool} {words : List Word}
    (h : ∀ w ∈ words, w.IsCanonical ∨ ∃ n, w = .factorial n) :
    ∀ w ∈ factorials ended words, w.IsCanonical := by
  have hminus : (Word.mark (.sign .minus)).IsCanonical := by simp [Word.IsCanonical]
  have hsign : ∀ w ∈ [Word.mark (.sign .minus)], w.IsCanonical := by simpa using hminus
  have hnone : ∀ w ∈ ([] : List Word), w.IsCanonical := by simp
  fun_induction factorials ended words with
  | case1 => simp
  | case2 ended n rest ih =>
      have hrest := ih fun v hv => h v (List.mem_cons_of_mem _ (List.mem_cons_of_mem _ hv))
      intro w hw
      rcases List.mem_append.1 hw with hw | hw
      · cases ended with
        | false => exact isCanonical_of_mem_factorialCall hsign hw
        | true =>
            rcases List.mem_cons.1 hw with rfl | hw
            · exact hminus
            · exact isCanonical_of_mem_factorialCall hnone hw
      · exact hrest w hw
  | case3 ended n rest ih =>
      have hrest := ih fun v hv => h v (List.mem_cons_of_mem _ hv)
      intro w hw
      rcases List.mem_append.1 hw with hw | hw
      · exact isCanonical_of_mem_factorialCall hnone hw
      · exact hrest w hw
  | case4 ended v rest _ hfactorial ih =>
      have hrest := ih fun u hu => h u (List.mem_cons_of_mem _ hu)
      intro w hw
      rcases List.mem_cons.1 hw with rfl | hw
      · rcases h w List.mem_cons_self with hcanonical | ⟨n, rfl⟩
        · exact hcanonical
        · exact absurd rfl (hfactorial n)
      · exact hrest w hw

/-- Every sign of the surface notation is gone from the canonical words. -/
theorem isCanonical_of_mem_canonicalWords {words : List Word} :
    ∀ w ∈ canonicalWords words, w.IsCanonical := by
  rw [canonicalWords_eq_finished]
  refine isCanonical_of_mem_factorials fun w hw => ?_
  obtain ⟨v, -, hv⟩ := List.mem_flatMap.1 hw
  exact isCanonical_of_mem_rewritten hv

end DeskCalculator.Surface
