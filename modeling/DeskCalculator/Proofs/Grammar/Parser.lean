import DeskCalculator.Proofs.Grammar.TwoStacks
import Mathlib

/-!
# The parser follows the grammar

The parser accepts exactly the sums of the grammar and returns the tree that the
grammar assigns to them.  It refuses everything else as a syntax error.  On two
bare stacks the same algorithm gives the same answers, so no access to a stack
ever finds it empty, and with success the tree is all that is left on the
operand stack.
-/

namespace DeskCalculator.Grammar

open DeskCalculator.Expr

/-- Acceptance is derivability, and the tree is that of the derivation. -/
theorem ofTokens_eq_ok_iff {tokens : List Token} (lexical : ∀ token ∈ tokens, token.Lexical)
    {e : Expr} : ofTokens tokens = .ok e ↔ IsSum tokens e := by
  refine ⟨fun h => ?_, ofTokens_of_isSum⟩
  rcases ofTokens_spec lexical with ⟨tree, htree, hsum⟩ | ⟨fault, hfault, -⟩
  · rw [htree] at h
    cases h
    exact hsum
  · rw [hfault] at h
    cases h

/-- The grammar is unambiguous. -/
theorem IsSum.unique {tokens : List Token} {first second : Expr} (hfirst : IsSum tokens first)
    (hsecond : IsSum tokens second) : first = second := by
  have h := ofTokens_of_isSum hfirst
  rw [ofTokens_of_isSum hsecond] at h
  cases h
  rfl

/-- The tokens of a text are lexical, and for all lexical tokens: the parser returns a tree exactly
when the tokens are a sum with that tree; where they are none it reports a syntax error; and the
two bare stacks give the same answer, with the tree as the only operand left. -/
theorem parsing_follows_grammar :
    (∀ text tokens, Token.ofText text = .ok tokens → ∀ token ∈ tokens, token.Lexical) ∧
    ∀ tokens : List Token, (∀ token ∈ tokens, token.Lexical) →
      (∀ e, ofTokens tokens = .ok e ↔ IsSum tokens e) ∧
      ((¬ ∃ e, IsSum tokens e) →
        ∃ fault, ofTokens tokens = .error fault ∧ fault.kind = .syntaxError) ∧
      ((∃ e, ofTokens tokens = .ok e ∧ TwoStacks.parse tokens = .ok [e]) ∨
        ∃ fault, ofTokens tokens = .error fault ∧
          TwoStacks.parse tokens = .error (.fault fault)) := by
  refine ⟨fun text tokens h => Token.lexical_of_scan h, fun tokens lexical => ⟨fun e => ?_, ?_, ?_⟩⟩
  · exact ofTokens_eq_ok_iff lexical
  · intro hnone
    rcases ofTokens_spec lexical with ⟨e, -, hsum⟩ | hfault
    · exact absurd ⟨e, hsum⟩ hnone
    · exact hfault
  · rw [TwoStacks.parse_eq lexical]
    cases h : ofTokens tokens with
    | ok e => exact .inl ⟨e, rfl, rfl⟩
    | error fault => exact .inr ⟨fault, rfl, rfl⟩

/-- The tokens of `f()-2**3`, with their positions. -/
def sampleTokens : List Token :=
  [⟨.name, "f", 0⟩, ⟨.symbol, "(", 1⟩, ⟨.symbol, ")", 2⟩, ⟨.symbol, "-", 3⟩, ⟨.number, "2", 4⟩,
    ⟨.power, "**", 5⟩, ⟨.number, "3", 7⟩]

/-- The scanner finds these tokens, and the parser and the grammar agree on their tree. -/
theorem parsing_follows_grammar_sample :
    Token.ofText "f()-2**3" = .ok sampleTokens ∧ (∀ token ∈ sampleTokens, token.Lexical) ∧
      IsSum sampleTokens (.operation (.call (.name "f") []) "-"
        (.operation (.number (Token.value ⟨.number, "2", 4⟩)) "**"
          (.number (Token.value ⟨.number, "3", 7⟩)))) := by
  have hscan : Token.ofText "f()-2**3" = .ok sampleTokens := by cbv
  have hlexical := parsing_follows_grammar.1 _ _ hscan
  exact ⟨hscan, hlexical, ((parsing_follows_grammar.2 _ hlexical).1 _).1 rfl⟩

end DeskCalculator.Grammar
