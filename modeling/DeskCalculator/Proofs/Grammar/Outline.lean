import DeskCalculator.Proofs.Expr.Machine
import DeskCalculator.Proofs.Token.Sketch

/-!
# The outline of a phrase

A phrase of the grammar is closed in its parentheses, and the arguments of a
call are as many pieces as trees.  So in a phrase whose calls are all known, a
name with an opening parenthesis behind it is the name of a function, and
behind the parenthesis stand as many pieces as the function takes arguments,
none of them blank (`IsSum.callsFit`).
-/

namespace DeskCalculator.Grammar

open Entry Token
open DeskCalculator.Expr

/-! ## Phrases are fillers -/

theorem sketch_append (first second : List Token) :
    sketch (first ++ second) = sketch first ++ sketch second :=
  List.map_append

theorem sketch_cons (token : Token) (rest : List Token) :
    sketch (token :: rest) = mark token :: sketch rest := rfl

theorem mark_of_kind {token : Token} (hkind : token.kind ≠ .symbol) : mark token = '0' := by
  obtain ⟨kind, text, position⟩ := token
  cases kind with
  | number => rfl
  | name => rfl
  | power => rfl
  | symbol => exact absurd rfl hkind

theorem mark_of_additive {token : Token} (joins : token.Additive) : mark token = '0' := by
  rcases joins with joins | joins
  · rw [mark_of_is joins]
    rfl
  · rw [mark_of_is joins]
    rfl

theorem mark_of_multiplicative {token : Token} (joins : token.Multiplicative) :
    mark token = '0' := by
  rcases joins with joins | joins
  · rw [mark_of_is joins]
    rfl
  · rw [mark_of_is joins]
    rfl

theorem filler_zero : Filler ['0'] :=
  @filler_of_mem _ '0' (neutral_singleton (by decide)) List.mem_cons_self (by decide)

/-- A filler with a sign between it and another one. -/
theorem filler_join {before after : List Token} {joint : Token} (hbefore : Filler (sketch before))
    (hjoint : mark joint = '0') (hafter : Filler (sketch after)) :
    Filler (sketch (before ++ joint :: after)) := by
  rw [sketch_append, sketch_cons, hjoint]
  exact hbefore.append (filler_zero.append hafter.neutral).neutral

/-- What stands in parentheses is a filler. -/
theorem filler_brackets {inner : List Token} {opening closing : Token}
    (opens : opening.Is .symbol "(") (closes : closing.Is .symbol ")")
    (hinner : Enclosed (sketch inner)) : Filler (sketch (opening :: (inner ++ [closing]))) := by
  have hopening : mark opening = '(' := mark_of_is opens
  have hclosing : mark closing = ')' := mark_of_is closes
  have hsketch : sketch (opening :: (inner ++ [closing])) = '(' :: (sketch inner ++ [')']) := by
    rw [sketch_cons, sketch_append, hopening, sketch_cons, hclosing]
    rfl
  rw [hsketch]
  exact @filler_of_mem _ '(' hinner.bracket List.mem_cons_self (by decide)

mutual

theorem IsSum.filler {tokens : List Token} {e : Expr} : IsSum tokens e → Filler (sketch tokens)
  | .term term => term.filler
  | .join left joins right => filler_join left.filler (mark_of_additive joins) right.filler

theorem IsTerm.filler {tokens : List Token} {e : Expr} : IsTerm tokens e → Filler (sketch tokens)
  | .power power => power.filler
  | .join left joins right => filler_join left.filler (mark_of_multiplicative joins) right.filler

theorem IsPower.filler {tokens : List Token} {e : Expr} : IsPower tokens e → Filler (sketch tokens)
  | .signed signed => signed.filler
  | .raise left raises right => filler_join left.filler (mark_of_is raises) right.filler

theorem IsSigned.filler {tokens : List Token} {e : Expr} :
    IsSigned tokens e → Filler (sketch tokens)
  | .applied applied => applied.filler
  | .sign additive signed => by
      have hmark := mark_of_additive additive
      rw [sketch_cons, hmark]
      exact filler_zero.append signed.filler.neutral

theorem IsApplied.filler {tokens : List Token} {e : Expr} :
    IsApplied tokens e → Filler (sketch tokens)
  | .primary primary => primary.filler
  | .empty applied opens closes => by
      rw [sketch_append]
      exact applied.filler.append (@filler_brackets [] _ _ opens closes neutral_nil.enclosed).neutral
  | .call applied opens given closes => by
      rw [sketch_append]
      exact applied.filler.append (filler_brackets opens closes given.enclosed).neutral

theorem IsPrimary.filler {tokens : List Token} {e : Expr} :
    IsPrimary tokens e → Filler (sketch tokens)
  | .number kind => by
      rw [sketch_cons, mark_of_kind (by simp [kind])]
      exact filler_zero
  | .name kind => by
      rw [sketch_cons, mark_of_kind (by simp [kind])]
      exact filler_zero
  | .group opens sum closes => filler_brackets opens closes sum.filler.neutral.enclosed

theorem AreArguments.enclosed {tokens : List Token} {given : List Expr} :
    AreArguments tokens given → Enclosed (sketch tokens)
  | .last sum => sum.filler.neutral.enclosed
  | .more sum separates rest => by
      have hcomma : mark _ = ',' := mark_of_is separates
      rw [sketch_append, sketch_cons, hcomma]
      exact sum.filler.neutral.enclosed.append (enclosed_comma.append rest.enclosed)

end

theorem AreArguments.length_pos {tokens : List Token} {given : List Expr} :
    AreArguments tokens given → 0 < given.length
  | .last _ => Nat.one_pos
  | .more _ _ _ => Nat.succ_pos _

/-- Behind the parenthesis of a call stand as many pieces as there are arguments. -/
theorem AreArguments.shape {tokens : List Token} {given : List Expr} {closing : Token}
    (closes : closing.Is .symbol ")") (tail : List Char) : AreArguments tokens given →
    shape 0 (sketch (tokens ++ [closing]) ++ tail) =
      (false, List.replicate (given.length - 1) false)
  | .last sum => by
      have hclosing : mark closing = ')' := mark_of_is closes
      rw [sketch_append, List.append_assoc, sum.filler.shape, sketch_cons, hclosing,
        List.cons_append, shape_cons]
      rfl
  | @AreArguments.more before after e others comma sum separates rest => by
      have hcomma : mark comma = ',' := mark_of_is separates
      have hrest := rest.shape closes tail
      have hlength : (e :: others).length - 1 = others.length - 1 + 1 := by
        have := rest.length_pos
        simp only [List.length_cons]
        omega
      have hsketch : sketch (before ++ comma :: after ++ [closing]) ++ tail =
          sketch before ++ ',' :: (sketch (after ++ [closing]) ++ tail) := by
        simp [sketch_append, sketch_cons, hcomma]
      rw [hsketch, sum.filler.shape, shape_cons, if_neg (by simp), if_pos (by simp), hrest, hlength,
        List.replicate_succ]

/-! ## Calls -/

/-- Whether a name can be that of the call whose opening parenthesis these tokens stand behind. -/
def Fits (name : Token) (behind : List Token) : Prop :=
  ∃ f, Function.ofName? name.text = some f ∧
    ∀ tail, shape 0 (sketch behind ++ tail) = (false, List.replicate (f.arity - 1) false)

/-- Whether every name with an opening parenthesis behind it fits what follows. -/
def CallsFit (tokens : List Token) : Prop :=
  ∀ first name opening behind, tokens = first ++ name :: opening :: behind → name.kind = .name →
    opening.Is .symbol "(" → Fits name behind

theorem Fits.append {name : Token} {behind : List Token} (h : Fits name behind)
    (more : List Token) : Fits name (behind ++ more) := by
  obtain ⟨f, hf, hshape⟩ := h
  refine ⟨f, hf, fun tail => ?_⟩
  rw [sketch_append, List.append_assoc, hshape]

theorem callsFit_nil : CallsFit [] := by
  intro first name opening behind h
  simp at h

theorem callsFit_singleton (token : Token) : CallsFit [token] := by
  intro first name opening behind h
  have hlength := congrArg List.length h
  simp only [List.length_append, List.length_cons, List.length_nil] at hlength
  omega

/-- Calls fit in two stretches if they do in each of them and where the stretches meet. -/
theorem CallsFit.append {before after : List Token} (hbefore : CallsFit before)
    (hafter : CallsFit after)
    (hmeet : ∀ name ∈ before.getLast?, ∀ opening behind, after = opening :: behind →
      name.kind = .name → opening.Is .symbol "(" → Fits name behind) :
    CallsFit (before ++ after) := by
  intro first name opening behind h hname hopening
  rcases List.append_eq_append_iff.1 h with ⟨later, hfirst, hrest⟩ | ⟨later, hleft, hrest⟩
  · exact hafter later name opening behind hrest hname hopening
  · cases later with
    | nil => exact hafter [] name opening behind hrest.symm hname hopening
    | cons token later =>
        rw [List.cons_append] at hrest
        obtain ⟨rfl, hbehind⟩ := List.cons.inj hrest
        cases later with
        | nil => exact hmeet name (by simp [hleft]) opening behind hbehind.symm hname hopening
        | cons token later =>
            rw [List.cons_append] at hbehind
            obtain ⟨rfl, rfl⟩ := List.cons.inj hbehind
            exact (hbefore first name opening later hleft hname hopening).append after

/-- Whether a token is no part of the start of a call. -/
def Separates (token : Token) : Prop := token.kind ≠ .name ∧ token.text ≠ "("

theorem separates_of_is {token : Token} {kind : TokenKind} {text : String} (h : token.Is kind text)
    (hkind : kind ≠ .name) (htext : text ≠ "(") : Separates token :=
  ⟨h.1 ▸ hkind, h.2 ▸ htext⟩

theorem separates_of_additive {token : Token} (joins : token.Additive) : Separates token := by
  rcases joins with joins | joins
  · exact separates_of_is joins (by decide) (by decide)
  · exact separates_of_is joins (by decide) (by decide)

theorem separates_of_multiplicative {token : Token} (joins : token.Multiplicative) :
    Separates token := by
  rcases joins with joins | joins
  · exact separates_of_is joins (by decide) (by decide)
  · exact separates_of_is joins (by decide) (by decide)

theorem CallsFit.cons {joint : Token} {after : List Token} (hjoint : joint.kind ≠ .name)
    (hafter : CallsFit after) : CallsFit (joint :: after) := by
  refine (callsFit_singleton joint).append hafter fun name hname _ _ _ hkind => ?_
  rw [List.getLast?_singleton] at hname
  cases hname
  exact absurd hkind hjoint

theorem CallsFit.join {before after : List Token} {joint : Token} (hbefore : CallsFit before)
    (hjoint : Separates joint) (hafter : CallsFit after) : CallsFit (before ++ joint :: after) := by
  refine hbefore.append (hafter.cons hjoint.1) fun name _ opening behind hsplit _ hopening => ?_
  obtain ⟨rfl, -⟩ := List.cons.inj hsplit
  exact absurd hopening.2 hjoint.2

theorem CallsFit.brackets {inner : List Token} {opening closing : Token} (h : CallsFit inner)
    (opens : opening.Is .symbol "(") (closes : closing.Is .symbol ")") :
    CallsFit (opening :: (inner ++ [closing])) := by
  have hopening : opening.kind ≠ .name := by simp [opens.1]
  have hclosing : Separates closing := separates_of_is closes (by decide) (by decide)
  exact (h.join hclosing callsFit_nil).cons hopening

/-- An applied operand that ends with a name is that name. -/
theorem IsApplied.eq_name {tokens : List Token} {e : Expr} (h : IsApplied tokens e) {name : Token}
    (hname : name ∈ tokens.getLast?) (hkind : name.kind = .name) : e = .name name.text := by
  have hnot : ∀ {before : List Token} {closing : Token}, closing.Is .symbol ")" →
      name ∉ (before ++ [closing]).getLast? := by
    intro before closing closes hclosing
    rw [List.getLast?_concat] at hclosing
    cases hclosing
    rw [closes.1] at hkind
    cases hkind
  cases h with
  | primary primary =>
      cases primary with
      | number kind =>
          rw [List.getLast?_singleton] at hname
          cases hname
          rw [kind] at hkind
          cases hkind
      | name kind =>
          rw [List.getLast?_singleton] at hname
          cases hname
          rfl
      | @group inner e opening closing opens sum closes =>
          rw [← List.cons_append] at hname
          exact absurd hname (hnot closes)
  | @empty before callee opening closing applied opens closes =>
      rw [List.append_cons] at hname
      exact absurd hname (hnot closes)
  | @call before inner callee arguments opening closing applied opens given closes =>
      rw [← List.cons_append, ← List.append_assoc] at hname
      exact absurd hname (hnot closes)

/-- A name before the parenthesis of a known call is that of the function. -/
theorem callsFit_call {tokens inner : List Token} {text : String} {f : Function}
    {opening closing : Token} (applied : IsApplied tokens (.name text))
    (opens : opening.Is .symbol "(") (closes : closing.Is .symbol ")")
    (hfound : Function.ofName? text = some f) (hinner : CallsFit inner) (hcallee : CallsFit tokens)
    (hshape : ∀ tail, shape 0 (sketch (inner ++ [closing]) ++ tail) =
      (false, List.replicate (f.arity - 1) false)) :
    CallsFit (tokens ++ opening :: (inner ++ [closing])) := by
  refine hcallee.append (hinner.brackets opens closes) fun name hname _ _ hsplit hkind _ => ?_
  obtain ⟨-, rfl⟩ := List.cons.inj hsplit
  have hcalled := applied.eq_name hname hkind
  cases hcalled
  exact ⟨f, hfound, hshape⟩

mutual

theorem IsSum.callsFit {tokens : List Token} {e : Expr} : IsSum tokens e → CallsKnown e →
    CallsFit tokens
  | .term term => term.callsFit
  | .join left joins right => fun h =>
      (left.callsFit h.1).join (separates_of_additive joins) (right.callsFit h.2)

theorem IsTerm.callsFit {tokens : List Token} {e : Expr} : IsTerm tokens e → CallsKnown e →
    CallsFit tokens
  | .power power => power.callsFit
  | .join left joins right => fun h =>
      (left.callsFit h.1).join (separates_of_multiplicative joins) (right.callsFit h.2)

theorem IsPower.callsFit {tokens : List Token} {e : Expr} : IsPower tokens e → CallsKnown e →
    CallsFit tokens
  | .signed signed => signed.callsFit
  | .raise left raises right => fun h =>
      (left.callsFit h.1).join (separates_of_is raises (by decide) (by decide))
        (right.callsFit h.2)

theorem IsSigned.callsFit {tokens : List Token} {e : Expr} : IsSigned tokens e → CallsKnown e →
    CallsFit tokens
  | .applied applied => applied.callsFit
  | .sign additive signed => fun h =>
      (signed.callsFit h).cons (separates_of_additive additive).1

theorem IsApplied.callsFit {tokens : List Token} {e : Expr} : IsApplied tokens e → CallsKnown e →
    CallsFit tokens
  | .primary primary => primary.callsFit
  | .empty applied opens closes => by
      intro h
      obtain ⟨⟨f, hf⟩, -⟩ := h
      obtain ⟨-, -, -, hlength⟩ := calledFunction_eq_ok hf
      have hpos := arity_pos f
      rw [← hlength] at hpos
      exact absurd hpos (Nat.lt_irrefl 0)
  | .call applied opens given closes => by
      intro h
      have hcallee := applied.callsFit
      have hinner := given.callsFit
      obtain ⟨⟨f, hf⟩, hgiven⟩ := h
      obtain ⟨text, rfl, hfound, hlength⟩ := calledFunction_eq_ok hf
      refine callsFit_call applied opens closes hfound (hinner hgiven) (hcallee trivial)
        fun tail => ?_
      rw [given.shape closes, hlength]

theorem IsPrimary.callsFit {tokens : List Token} {e : Expr} : IsPrimary tokens e → CallsKnown e →
    CallsFit tokens
  | .number _ => fun _ => callsFit_singleton _
  | .name _ => fun _ => callsFit_singleton _
  | .group opens sum closes => fun h => (sum.callsFit h).brackets opens closes

theorem AreArguments.callsFit {tokens : List Token} {given : List Expr} :
    AreArguments tokens given → AllCallsKnown given → CallsFit tokens
  | .last sum => fun h => sum.callsFit h.1
  | .more sum separates rest => fun h =>
      (sum.callsFit h.1).join (separates_of_is separates (by decide) (by decide))
        (rest.callsFit h.2)

end

end DeskCalculator.Grammar
