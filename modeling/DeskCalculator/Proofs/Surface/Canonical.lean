import DeskCalculator.Proofs.Surface.Neighbours

/-!
# The canonical form, word by word

The six passes keep the words of a row apart, so they can be followed one after
another: the canonical form of a row of words is the text of its canonical words
(`canonical_text`).
-/

namespace DeskCalculator.Surface

open Text Entry

/-! ## The passes keep words apart -/

theorem head?_shares (words : List Word) : (shares words).head? = words.head? := by
  fun_induction shares words with
  | case1 => rfl
  | case2 => rfl
  | case3 => rfl

private theorem apart_shares {words : List Word} (happart : Apart words) :
    Apart (shares words) := by
  fun_induction shares words with
  | case1 => exact happart
  | case2 base s share rest ih =>
      have hrest := ih happart.tail.tail.tail
      have hportion : Apart (portion base share) := by
        simp [portion, Apart, Word.MayPrecede, Word.kind]
      have hjoined : Apart (portion base share ++ shares rest) := by
        refine apart_append.2 ⟨hportion, hrest, fun v hv w _ _ => ?_⟩
        simp only [portion, List.getLast?_cons_cons, List.getLast?_singleton,
          Option.mem_some_iff] at hv
        rw [← hv]
        rfl
      refine apart_cons.2 ⟨?_, apart_cons.2 ⟨?_, hjoined⟩⟩
      · simp [Word.MayPrecede, Word.kind]
      · simp [Word.MayPrecede, Word.kind]
  | case3 w rest _ ih =>
      refine apart_cons.2 ⟨fun v hv => ?_, ih happart.tail⟩
      rw [head?_shares] at hv
      exact (apart_cons.1 happart).1 v hv

/-- Whether the words that replace a word are apart and keep its neighbours apart from them. -/
structure KeepsApart (f : Word → List Word) : Prop where
  ne_nil : ∀ w, f w ≠ []
  apart : ∀ w, Apart (f w)
  head : ∀ w, ∀ v ∈ (f w).head?, v.kind = w.kind ∨ v.kind = .other
  last : ∀ w, ∀ v ∈ (f w).getLast?, v.kind = w.kind ∨ v.kind = .other

theorem KeepsApart.flatMap {f : Word → List Word} (hf : KeepsApart f) {words : List Word}
    (happart : Apart words) : Apart (words.flatMap f) := by
  induction words with
  | nil => exact happart
  | cons w rest ih =>
      rw [List.flatMap_cons]
      refine apart_append.2 ⟨hf.apart w, ih happart.tail, fun v hv u hu hkind => ?_⟩
      cases rest with
      | nil => cases hu
      | cons next more =>
          rw [List.flatMap_cons, List.head?_append_of_ne_nil _ (hf.ne_nil next)] at hu
          have hnext := (apart_cons.1 happart).1 next rfl
          rcases hf.last w v hv with hv | hv
          · rcases hf.head next u hu with hu | hu
            · rw [hv]
              exact hnext (by rw [← hv, hkind, hu])
            · rw [hkind, hu]
          · exact hv

theorem keepsApart_of_singleton {f : Word → List Word}
    (hf : ∀ w, ∃ v, f w = [v] ∧ v.kind = w.kind) : KeepsApart f where
  ne_nil w := by
    obtain ⟨v, hv, -⟩ := hf w
    simp [hv]
  apart w := by
    obtain ⟨v, hv, -⟩ := hf w
    simp [hv, Apart]
  head w u hu := by
    obtain ⟨v, hv, hkind⟩ := hf w
    rw [hv, List.head?_cons, Option.mem_some_iff] at hu
    exact .inl (hu ▸ hkind)
  last w u hu := by
    obtain ⟨v, hv, hkind⟩ := hf w
    rw [hv, List.getLast?_singleton, Option.mem_some_iff] at hu
    exact .inl (hu ▸ hkind)

theorem keepsApart_hundredths : KeepsApart hundredths where
  ne_nil w := by cases w <;> simp [hundredths]
  apart w := by cases w <;> simp [hundredths, Apart, Word.MayPrecede, Word.kind]
  head w v hv := by
    cases w <;> simp only [hundredths, List.head?_cons, Option.mem_some_iff] at hv <;>
      subst hv <;> simp [Word.kind]
  last w v hv := by
    cases w <;> simp only [hundredths, List.getLast?_cons_cons, List.getLast?_singleton,
      Option.mem_some_iff] at hv <;> subst hv <;> simp [Word.kind]

theorem keepsApart_nameCircle : KeepsApart nameCircle :=
  keepsApart_of_singleton fun w => by cases w <;> exact ⟨_, rfl, rfl⟩

theorem keepsApart_nameEuler : KeepsApart nameEuler :=
  keepsApart_of_singleton fun w => by cases w <;> exact ⟨_, rfl, rfl⟩

theorem keepsApart_doublePower : KeepsApart doublePower := by
  refine keepsApart_of_singleton fun w => ?_
  cases w with
  | mark m => exact ⟨_, rfl, by cases m <;> rfl⟩
  | _ => exact ⟨_, rfl, rfl⟩

theorem Word.endsOperand_of_kind {w : Word} (hkind : w.kind = .operand) : w.endsOperand = true := by
  cases w with
  | mark m => cases m <;> cases hkind
  | spaced m => cases hkind
  | _ => rfl

private theorem apart_factorialCall (sign : Sign) (n : Literal) :
    Apart (factorialCall [] n) ∧ Apart (factorialCall [.mark (.sign sign)] n) := by
  simp [factorialCall, Apart, Word.MayPrecede, Word.kind]

private theorem getLast?_factorialCall (sign : List Word) (n : Literal) :
    (factorialCall sign n).getLast? = some (.mark .closing) := by
  have hsplit : factorialCall sign n =
      .name .factorial :: .mark .opening :: (sign ++ [.literal n]) ++ [.mark .closing] := by
    simp [factorialCall]
  rw [hsplit, List.getLast?_concat]

/-- Where no operand has ended, a name may come up in place of a minus. -/
theorem head?_factorials {ended : Bool} {words : List Word} {v : Word}
    (hv : v ∈ (factorials ended words).head?) :
    (∃ w ∈ words.head?, v.kind = w.kind) ∨ ended = false ∧ v.kind = .operand := by
  cases words with
  | nil => cases hv
  | cons w rest =>
      unfold factorials at hv
      split at hv
      · next heq => cases heq
      · next heq =>
          cases heq
          cases ended with
          | false =>
              cases hv
              exact .inr ⟨rfl, rfl⟩
          | true =>
              cases hv
              exact .inl ⟨_, rfl, rfl⟩
      · next heq =>
          cases heq
          cases hv
          exact .inl ⟨_, rfl, rfl⟩
      · next heq =>
          cases heq
          cases hv
          exact .inl ⟨_, rfl, rfl⟩

/-- A call of the factorial function may stand before anything. -/
theorem apart_factorialCall_append {call rest : List Word} (hcall : Apart call)
    (hlast : call.getLast? = some (.mark .closing)) (hrest : Apart rest) : Apart (call ++ rest) := by
  refine apart_append.2 ⟨hcall, hrest, fun v hv w _ _ => ?_⟩
  rw [hlast, Option.mem_some_iff] at hv
  rw [← hv]
  rfl

private theorem apart_factorials {ended : Bool} {words : List Word} (happart : Apart words) :
    Apart (factorials ended words) := by
  fun_induction factorials ended words with
  | case1 => exact happart
  | case2 ended n rest ih =>
      have hrest := ih happart.tail.tail
      have hcalls := apart_factorialCall .minus n
      have hplain := apart_factorialCall_append hcalls.1 (getLast?_factorialCall _ n) hrest
      have hnegated := apart_factorialCall_append hcalls.2 (getLast?_factorialCall _ n) hrest
      cases ended with
      | false => exact hnegated
      | true => exact apart_cons.2 ⟨fun v _ _ => rfl, hplain⟩
  | case3 ended n rest ih =>
      have hrest := ih happart.tail
      exact apart_factorialCall_append (apart_factorialCall .minus n).1
        (getLast?_factorialCall _ n) hrest
  | case4 ended w rest _ _ ih =>
      refine apart_cons.2 ⟨fun v hv hkind => ?_, ih happart.tail⟩
      rcases head?_factorials hv with ⟨u, hu, hsame⟩ | ⟨hended, hoperand⟩
      · exact (apart_cons.1 happart).1 u hu (hkind.trans hsame)
      · rw [Word.endsOperand_of_kind (hkind.trans hoperand)] at hended
        cases hended

/-- The canonical form of a row of words is the text of its canonical words. -/
theorem canonical_text {words : List Word} (happart : Apart words)
    (htyped : ∀ w ∈ words, ¬ w.IsSpaced) :
    Entry.canonical (text words) = text (canonicalWords words) ∧ Apart (canonicalWords words) := by
  have hfirst : ∀ (words : List Word), ∀ w ∈ words.head?, w.kind = .operand →
      ∀ c ∈ (none : Option Char), isClear c = true := by
    intro words w _ _ c hc
    cases hc
  have hshares := apart_shares happart
  have hhundredths := keepsApart_hundredths.flatMap hshares
  have hcircle := keepsApart_nameCircle.flatMap hhundredths
  have heuler := keepsApart_nameEuler.flatMap hcircle
  have hpower := keepsApart_doublePower.flatMap heuler
  refine ⟨?_, apart_factorials hpower⟩
  rw [Entry.canonical, withoutPercentages, replaceAll_percentOfBase happart htyped,
    rewrites_hundredths.replaceAll_text hshares (hfirst _),
    rewrites_nameCircle.replaceAll_text hhundredths (hfirst _),
    rewrites_nameEuler.replaceAll_text hcircle (hfirst _),
    rewrites_doublePower.replaceAll_text heuler (hfirst _),
    replaceAll_factorialSign hpower none rfl]
  rfl

end DeskCalculator.Surface
