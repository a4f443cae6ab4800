import DeskCalculator.Evaluation
import DeskCalculator.Proofs.Entry.Preserved
import DeskCalculator.Proofs.Expr.Totality
import DeskCalculator.Proofs.Grammar.Outline
import DeskCalculator.Proofs.Grammar.Parser

/-!
# The checks agree with the evaluator

The checks on an entry read its text; the evaluator reads the tokens of its
canonical form.  This file proves that the checks refuse nothing that the
evaluator accepts (`checks_of_evaluateCanonical`).

## Strategy

* The passes keep the surplus of parentheses and the shape of the arguments of
  each call of a function of two arguments (`preserves_canonical`).
* The canonical form has the outline of its tokens (`Scanned.outlines`), and such
  a call is a name token with a parenthesis behind it (`Scanned.callsWith`).
* The tokens are a sum of the grammar, so they are closed, and as the evaluation
  succeeds each name fits what follows it (`IsSum.callsFit`).
-/

namespace DeskCalculator.Entry

open Text Token Grammar

/-- What the tokens of a text are whose evaluation succeeds. -/
theorem exists_sum_of_evaluateCanonical {text : List Char} {bindings : Bindings} {v : Float}
    (h : evaluateCanonical (String.ofList text) bindings = .ok v) :
    ∃ tokens e, Scanned text tokens ∧ IsSum tokens e ∧ Expr.CallsKnown e := by
  obtain ⟨e, hparse, hevaluate⟩ := Expr.bind_eq_ok h
  obtain ⟨tokens, hscan, htokens⟩ := Expr.bind_eq_ok (Expr.mapError_eq_ok hparse)
  rw [Token.ofText, String.toList_ofList] at hscan
  have hsum : IsSum tokens e :=
    (ofTokens_eq_ok_iff (lexical_of_scan hscan)).1 htokens
  exact ⟨tokens, e, scanned_of_scan hscan, hsum, Expr.callsKnown_of_evaluate hevaluate⟩

/-- A known name that ends in that of a function of two arguments is the name of such a function. -/
theorem arity_of_suffix {function text : String} {f : Function} {start : List Char}
    (hfunction : function ∈ pairFunctions) (hf : Function.ofName? text = some f)
    (htext : text.toList = start ++ function.toList) : f.arity = 2 := by
  have hall : ∀ f : Function, pairFunctions.all (fun function =>
      !function.toList.isSuffixOf f.name.toList || f.arity == 2) = true := by
    intro f
    cases f <;> decide
  have hsuffix : function.toList.isSuffixOf f.name.toList = true := by
    rw [List.isSuffixOf_iff_suffix, Function.name_of_ofName? hf, htext]
    exact List.suffix_append start function.toList
  have harity := List.all_eq_true.1 (hall f) function hfunction
  rw [hsuffix] at harity
  simpa using harity

/-- The name of a function of two arguments is made of letters that are in no numeral. -/
theorem isLetter_of_mem_pairFunctions {function : String} (h : function ∈ pairFunctions) :
    ∀ c ∈ function.toList, isLetter c = true ∧ isNumeral c = false := by
  have hall : pairFunctions.all (fun function =>
      function.toList.all fun c => isLetter c && !isNumeral c) = true := by
    decide
  simpa using List.all_eq_true.1 hall function h

/-- An entry whose canonical form has a value passes the checks on its parentheses and on its
arguments. -/
theorem checks_of_evaluateCanonical {entry : List Char} {v : Float}
    (h : evaluateCanonical (String.ofList (canonical entry)) [] = .ok v) :
    checkParentheses entry = .ok () ∧ checkArguments entry = .ok () := by
  obtain ⟨tokens, e, hscanned, hsum, hknown⟩ := exists_sum_of_evaluateCanonical h
  have hpreserves := preserves_canonical entry
  have houtlines := hscanned.outlines
  constructor
  · have hcount := hpreserves.count
    have hcount' := houtlines.count
    have hsketch := hsum.filler.neutral.count
    have hequal : entry.count '(' = entry.count ')' := by omega
    rw [checkParentheses, if_pos hequal]
  · refine checkArguments_eq_ok fun function hfunction inside hinside => ?_
    obtain ⟨other, hother, hshape⟩ := hpreserves.calls function hfunction inside hinside
    obtain ⟨first, name, opening, last, rfl, hname, ⟨start, htext⟩, hopening, hlast⟩ :=
      hscanned.callsWith (not_isReplaced_of_mem_pairFunctions hfunction).1
        (isLetter_of_mem_pairFunctions hfunction) hother
    obtain ⟨f, hf, hfits⟩ := hsum.callsFit hknown first name opening last rfl hname hopening
    have harity := arity_of_suffix hfunction hf htext
    have hbehind := hfits []
    rw [List.append_nil, harity] at hbehind
    calc shape 0 inside = shape 0 other := hshape.symm
      _ = shape 0 (sketch last) := hlast.outlines.shape 0
      _ = (false, [false]) := hbehind

theorem checks_of_evaluateCanonical_root :
    ∃ v, evaluateCanonical (String.ofList (canonical "root(2,9)".toList)) [] = .ok v ∧
      checkParentheses "root(2,9)".toList = .ok () ∧ checkArguments "root(2,9)".toList = .ok () := by
  let degree : Token := ⟨.number, "2", 5⟩
  let number : Token := ⟨.number, "9", 7⟩
  have hcanonical : canonical "root(2,9)".toList = "root(2,9)".toList := by cbv
  have hscan : Token.scan 0 "root(2,9)".toList = .ok [⟨.name, "root", 0⟩, ⟨.symbol, "(", 4⟩,
      degree, ⟨.symbol, ",", 6⟩, number, ⟨.symbol, ")", 8⟩] := by
    cbv
  have hparse : Expr.parse (String.ofList (canonical "root(2,9)".toList)) =
      .ok (.call (.name "root") [.number degree.value, .number number.value]) := by
    rw [Expr.parse, Token.ofText, String.toList_ofList, hcanonical, hscan]
    rfl
  obtain ⟨v, hroot⟩ := exists_root degree.value number.value
  have hvalue : evaluateCanonical (String.ofList (canonical "root(2,9)".toList)) [] =
      .ok v := by
    rw [evaluateCanonical, hparse]
    show Expr.evaluate [] _ = _
    rw [Expr.evaluate_eq_value]
    show (root degree.value number.value).mapError _ = _
    rw [hroot]
    rfl
  exact ⟨v, hvalue, checks_of_evaluateCanonical hvalue⟩

end DeskCalculator.Entry
