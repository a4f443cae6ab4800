import DeskCalculator.Expr.Parser
import Mathlib.Tactic

/-!
# The grammar of the canonical notation

The phrases of the notation, each with the tree that it stands for:

```text
sum      := term (('+' | '-') term)*
term     := power (('*' | '/') power)*
power    := signed ('**' power)?
signed   := ('+' | '-') signed | applied
applied  := primary ('(' arguments? ')')*
primary  := NUMBER | NAME | '(' sum ')'
arguments := sum (',' sum)*
```

The repetitions of `sum`, `term` and `applied` are written as left recursion,
which is what "grouped to the left" means for the tree.
-/

namespace DeskCalculator

namespace Token

/-- Whether a token has this kind and this text. -/
def Is (token : Token) (kind : TokenKind) (text : String) : Prop :=
  token.kind = kind ∧ token.text = text

/-- A `+` or a `-`. -/
def Additive (token : Token) : Prop := token.Is .symbol "+" ∨ token.Is .symbol "-"

/-- A `*` or a `/`. -/
def Multiplicative (token : Token) : Prop := token.Is .symbol "*" ∨ token.Is .symbol "/"

/-- The sorts of token that the scanner makes: numbers and names of any text, and a fixed text for
everything else. -/
inductive Lexical (token : Token) : Prop
  | number (kind : token.kind = .number)
  | name (kind : token.kind = .name)
  | opening (opens : token.Is .symbol "(")
  | closing (closes : token.Is .symbol ")")
  | comma (separates : token.Is .symbol ",")
  | additive (joins : token.Additive)
  | multiplicative (joins : token.Multiplicative)
  | power (raises : token.Is .power "**")

private theorem lexical_of_leading? {text : List Char} {kind : TokenKind} {length position : Nat}
    (h : leading? text = some (kind, length)) :
    Lexical ⟨kind, String.ofList (text.take length), position⟩ := by
  unfold leading? at h
  split at h
  · cases h
    exact .number rfl
  split at h
  · cases h
    exact .name rfl
  split at h
  · cases h
    exact .power ⟨rfl, rfl⟩
  · next c rest _ =>
    split at h
    · next hsymbol =>
      cases h
      simp only [symbols, List.mem_cons, List.not_mem_nil, or_false] at hsymbol
      rcases hsymbol with rfl | rfl | rfl | rfl | rfl | rfl | rfl
      · exact .additive (.inl ⟨rfl, rfl⟩)
      · exact .additive (.inr ⟨rfl, rfl⟩)
      · exact .multiplicative (.inl ⟨rfl, rfl⟩)
      · exact .multiplicative (.inr ⟨rfl, rfl⟩)
      · exact .opening ⟨rfl, rfl⟩
      · exact .closing ⟨rfl, rfl⟩
      · exact .comma ⟨rfl, rfl⟩
    · cases h
  · cases h

/-- The scanner makes lexical tokens only. -/
theorem lexical_of_scan {text : List Char} :
    ∀ {position : Nat} {tokens : List Token}, scan position text = .ok tokens →
      ∀ token ∈ tokens, token.Lexical := by
  intro position
  fun_induction scan position text with
  | case1 position =>
      intro tokens h
      cases h
      simp
  | case2 position c rest kind length hleading ih =>
      intro tokens h
      cases hothers : scan (position + length) (rest.drop (length - 1)) with
      | error fault =>
          rw [hothers] at h
          cases h
      | ok others =>
          rw [hothers] at h
          cases h
          exact List.forall_mem_cons.2 ⟨lexical_of_leading? hleading, ih hothers⟩
  | case3 position c rest hleading hblank ih =>
      intro tokens h
      exact ih h
  | case4 position c rest hleading hblank =>
      intro tokens h
      cases h

end Token

namespace Grammar

mutual

/-- Terms joined by `+` and `-`. -/
inductive IsSum : List Token → Expr → Prop
  | term {tokens : List Token} {e : Expr} (term : IsTerm tokens e) : IsSum tokens e
  | join {before after : List Token} {first second : Expr} {joint : Token}
      (left : IsSum before first) (sign : joint.Additive) (right : IsTerm after second) :
      IsSum (before ++ joint :: after) (.operation first joint.text second)

/-- Powers joined by `*` and `/`. -/
inductive IsTerm : List Token → Expr → Prop
  | power {tokens : List Token} {e : Expr} (power : IsPower tokens e) : IsTerm tokens e
  | join {before after : List Token} {first second : Expr} {joint : Token}
      (left : IsTerm before first) (sign : joint.Multiplicative) (right : IsPower after second) :
      IsTerm (before ++ joint :: after) (.operation first joint.text second)

/-- A signed operand, perhaps raised to a power. -/
inductive IsPower : List Token → Expr → Prop
  | signed {tokens : List Token} {e : Expr} (signed : IsSigned tokens e) : IsPower tokens e
  | raise {before after : List Token} {base exponent : Expr} {joint : Token}
      (left : IsSigned before base) (sign : joint.Is .power "**")
      (right : IsPower after exponent) :
      IsPower (before ++ joint :: after) (.operation base joint.text exponent)

/-- An applied operand behind any number of signs. -/
inductive IsSigned : List Token → Expr → Prop
  | applied {tokens : List Token} {e : Expr} (applied : IsApplied tokens e) : IsSigned tokens e
  | sign {tokens : List Token} {e : Expr} {sign : Token} (additive : sign.Additive)
      (signed : IsSigned tokens e) : IsSigned (sign :: tokens) (.sign sign.text e)

/-- A primary operand with any number of argument lists behind it. -/
inductive IsApplied : List Token → Expr → Prop
  | primary {tokens : List Token} {e : Expr} (primary : IsPrimary tokens e) : IsApplied tokens e
  | empty {tokens : List Token} {callee : Expr} {opening closing : Token}
      (applied : IsApplied tokens callee) (opens : opening.Is .symbol "(")
      (closes : closing.Is .symbol ")") :
      IsApplied (tokens ++ [opening, closing]) (.call callee [])
  | call {tokens inner : List Token} {callee : Expr} {arguments : List Expr}
      {opening closing : Token} (applied : IsApplied tokens callee)
      (opens : opening.Is .symbol "(") (given : AreArguments inner arguments)
      (closes : closing.Is .symbol ")") :
      IsApplied (tokens ++ opening :: (inner ++ [closing])) (.call callee arguments)

/-- A number, a name or a sum in parentheses. -/
inductive IsPrimary : List Token → Expr → Prop
  | number {token : Token} (kind : token.kind = .number) : IsPrimary [token] (.number token.value)
  | name {token : Token} (kind : token.kind = .name) : IsPrimary [token] (.name token.text)
  | group {inner : List Token} {e : Expr} {opening closing : Token}
      (opens : opening.Is .symbol "(") (sum : IsSum inner e)
      (closes : closing.Is .symbol ")") : IsPrimary (opening :: (inner ++ [closing])) e

/-- Sums separated by commas. -/
inductive AreArguments : List Token → List Expr → Prop
  | last {tokens : List Token} {e : Expr} (sum : IsSum tokens e) : AreArguments tokens [e]
  | more {before after : List Token} {e : Expr} {others : List Expr} {comma : Token}
      (sum : IsSum before e) (separates : comma.Is .symbol ",")
      (rest : AreArguments after others) :
      AreArguments (before ++ comma :: after) (e :: others)

end

end Grammar

end DeskCalculator
