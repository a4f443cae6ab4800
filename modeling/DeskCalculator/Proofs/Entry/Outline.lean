import DeskCalculator.Entry.Check
import Mathlib.Data.List.TakeWhile
import Mathlib.Tactic

/-!
# The outline of a text

The checks on an entry look at its parentheses, at the commas outside further
parentheses, and at whether the pieces between them are blank.  That is the
outline of the text.  It stays the same when a stretch is replaced by another
one, as long as both are fillers: not blank, and closed in their parentheses and
commas.  `Outlines` says that one text arises from another in this way, and the
checks cannot tell the two apart (`Outlines.shape`, `Outlines.count`).
-/

namespace DeskCalculator.Entry

open Text

/-! ## Shapes -/

/-- Which of the pieces behind an opening parenthesis are blank: the first one, and the others. -/
def shape (depth : Nat) (text : List Char) : Bool × List Bool :=
  (isBlankText (pieces depth text).1, (pieces depth text).2.map isBlankText)

/-- The depth behind a character that ends no piece. -/
def depthBehind (depth : Nat) (c : Char) : Nat :=
  if c = '(' then depth + 1 else if c = ')' then depth - 1 else depth

theorem pieces_cons (depth : Nat) (c : Char) (rest : List Char) :
    pieces depth (c :: rest) =
      if c = ')' ∧ depth = 0 then ([], [])
      else if c = ',' ∧ depth = 0 then ([], (pieces 0 rest).1 :: (pieces 0 rest).2)
      else (c :: (pieces (depthBehind depth c) rest).1, (pieces (depthBehind depth c) rest).2) := by
  rw [pieces]
  rfl

theorem shape_cons (depth : Nat) (c : Char) (rest : List Char) :
    shape depth (c :: rest) =
      if c = ')' ∧ depth = 0 then (true, [])
      else if c = ',' ∧ depth = 0 then (true, (shape 0 rest).1 :: (shape 0 rest).2)
      else (isBlank c && (shape (depthBehind depth c) rest).1,
        (shape (depthBehind depth c) rest).2) := by
  unfold shape
  rw [pieces_cons]
  split
  · rfl
  split
  · rfl
  · simp [isBlankText]

/-! ## Fillers -/

/-- Whether a stretch is closed in itself: from each depth it leads back there, without a comma or a
parenthesis that ends a piece. -/
structure Neutral (stretch : List Char) : Prop where
  pieces : ∀ depth rest, pieces depth (stretch ++ rest) =
    (stretch ++ (Entry.pieces depth rest).1, (Entry.pieces depth rest).2)
  count : stretch.count '(' = stretch.count ')'

/-- The characters that the outline of a text is made of. -/
def isOutline (c : Char) : Bool := c = '(' || c = ')' || c = ','

/-- A class of characters without parentheses and commas. -/
theorem not_isOutline_of_class {p : Char → Bool} {c : Char}
    (hp : ['(', ')', ','].all (fun c => !p c) = true) (hc : p c = true) : isOutline c = false := by
  rw [Bool.eq_false_iff]
  intro houtline
  simp only [isOutline, Bool.or_eq_true, decide_eq_true_eq] at houtline
  have hmem : c ∈ ['(', ')', ','] := by simpa [or_assoc] using houtline
  have hnot := List.all_eq_true.1 hp c hmem
  rw [hc] at hnot
  cases hnot

theorem not_isOutline_of_isBlank {c : Char} (h : isBlank c = true) : isOutline c = false :=
  not_isOutline_of_class (by decide) h

theorem neutral_nil : Neutral [] where
  pieces _ _ := rfl
  count := rfl

theorem neutral_singleton {c : Char} (hc : isOutline c = false) : Neutral [c] where
  pieces depth rest := by
    simp only [isOutline, Bool.or_eq_false_iff, decide_eq_false_iff_not] at hc
    obtain ⟨⟨hopening, hclosing⟩, hcomma⟩ := hc
    have hdepth : depthBehind depth c = depth := by
      rw [depthBehind, if_neg hopening, if_neg hclosing]
    rw [List.singleton_append, pieces_cons, if_neg (by tauto), if_neg (by tauto), hdepth]
    rfl
  count := by
    simp only [isOutline, Bool.or_eq_false_iff, decide_eq_false_iff_not] at hc
    rw [List.count_singleton, List.count_singleton, beq_eq_false_iff_ne.2 hc.1.1,
      beq_eq_false_iff_ne.2 hc.1.2]

theorem Neutral.append {first second : List Char} (hfirst : Neutral first)
    (hsecond : Neutral second) : Neutral (first ++ second) where
  pieces depth rest := by
    rw [List.append_assoc, hfirst.pieces, hsecond.pieces, List.append_assoc]
  count := by
    rw [List.count_append, List.count_append, hfirst.count, hsecond.count]

theorem neutral_of_forall {stretch : List Char} (h : ∀ c ∈ stretch, isOutline c = false) :
    Neutral stretch := by
  induction stretch with
  | nil => exact neutral_nil
  | cons c rest ih =>
      have hrest := ih fun d hd => h d (List.mem_cons_of_mem _ hd)
      exact (neutral_singleton (h c List.mem_cons_self)).append hrest

/-- Whether a stretch is closed in itself where it stands in parentheses, so that its own commas end
no piece. -/
structure Enclosed (stretch : List Char) : Prop where
  pieces : ∀ depth rest, pieces (depth + 1) (stretch ++ rest) =
    (stretch ++ (Entry.pieces (depth + 1) rest).1, (Entry.pieces (depth + 1) rest).2)
  count : stretch.count '(' = stretch.count ')'

theorem Neutral.enclosed {stretch : List Char} (h : Neutral stretch) : Enclosed stretch where
  pieces depth rest := h.pieces (depth + 1) rest
  count := h.count

theorem enclosed_comma : Enclosed [','] where
  pieces depth rest := by
    have hdepth : depthBehind (depth + 1) ',' = depth + 1 := rfl
    rw [List.singleton_append, pieces_cons, if_neg (by simp), if_neg (by simp), hdepth]
    rfl
  count := by decide

theorem Enclosed.append {first second : List Char} (hfirst : Enclosed first)
    (hsecond : Enclosed second) : Enclosed (first ++ second) where
  pieces depth rest := by
    rw [List.append_assoc, hfirst.pieces, hsecond.pieces, List.append_assoc]
  count := by
    rw [List.count_append, List.count_append, hfirst.count, hsecond.count]

theorem Enclosed.bracket {inner : List Char} (h : Enclosed inner) :
    Neutral ('(' :: (inner ++ [')'])) where
  pieces depth rest := by
    have hopening : depthBehind depth '(' = depth + 1 := rfl
    have hclosing : depthBehind (depth + 1) ')' = depth := rfl
    rw [List.cons_append, List.append_assoc, List.singleton_append, pieces_cons, if_neg (by simp),
      if_neg (by simp), hopening, h.pieces, pieces_cons, if_neg (by simp), if_neg (by simp),
      hclosing]
    simp
  count := by
    simp [List.count_append, h.count]

/-- Whether a stretch is closed in itself and not blank. -/
structure Filler (stretch : List Char) : Prop where
  neutral : Neutral stretch
  not_blank : isBlankText stretch = false

theorem filler_of_mem {stretch : List Char} {c : Char} (hneutral : Neutral stretch)
    (hc : c ∈ stretch) (hblank : isBlank c = false) : Filler stretch where
  neutral := hneutral
  not_blank := by
    rw [isBlankText, List.all_eq_false]
    exact ⟨c, hc, by simp [hblank]⟩

theorem Filler.append {first second : List Char} (hfirst : Filler first)
    (hsecond : Neutral second) : Filler (first ++ second) where
  neutral := hfirst.neutral.append hsecond
  not_blank := by
    have hblank := hfirst.not_blank
    unfold isBlankText at hblank ⊢
    rw [List.all_append, hblank, Bool.false_and]

theorem Filler.shape {stretch : List Char} (h : Filler stretch) (depth : Nat) (rest : List Char) :
    shape depth (stretch ++ rest) = (false, (shape depth rest).2) := by
  have hblank := h.not_blank
  unfold Entry.shape
  rw [h.neutral.pieces]
  simp_all [isBlankText]

/-! ## Texts with the same outline -/

/-- Whether the second text has the outline of the first: it keeps each character, or has a filler
in place of a filler, or leaves out a blank. -/
inductive Outlines : List Char → List Char → Prop
  | nil : Outlines [] []
  | keep {first second : List Char} (c : Char) (rest : Outlines first second) :
      Outlines (c :: first) (c :: second)
  | swap {first second stretch other : List Char} (hstretch : Filler stretch)
      (hother : Filler other) (rest : Outlines first second) :
      Outlines (stretch ++ first) (other ++ second)
  | blank {first second : List Char} {c : Char} (hblank : isBlank c = true)
      (rest : Outlines first second) : Outlines (c :: first) second

/-- The pieces of both texts are blank or not alike. -/
theorem Outlines.shape {first second : List Char} (h : Outlines first second) :
    ∀ depth, shape depth first = shape depth second := by
  induction h with
  | nil => exact fun depth => rfl
  | keep c _ ih =>
      intro depth
      rw [shape_cons, shape_cons, ih, ih]
  | swap hstretch hother _ ih =>
      intro depth
      rw [hstretch.shape, hother.shape, ih]
  | @blank first second c hblank _ ih =>
      intro depth
      have hneutral := neutral_singleton (not_isOutline_of_isBlank hblank)
      have hpieces := hneutral.pieces depth first
      rw [← ih]
      unfold Entry.shape
      rw [List.singleton_append] at hpieces
      rw [hpieces]
      simp [isBlankText, hblank]

/-- Both texts have the same surplus of opening parentheses. -/
theorem Outlines.count {first second : List Char} (h : Outlines first second) :
    first.count '(' + second.count ')' = first.count ')' + second.count '(' := by
  induction h with
  | nil => rfl
  | keep c _ ih =>
      simp only [List.count_cons]
      omega
  | swap hstretch hother _ ih =>
      have hfirst := hstretch.neutral.count
      have hsecond := hother.neutral.count
      simp only [List.count_append]
      omega
  | @blank first second c hblank _ ih =>
      have hcount := (neutral_singleton (not_isOutline_of_isBlank hblank)).count
      have hopening := @List.count_append _ _ '(' [c] first
      have hclosing := @List.count_append _ _ ')' [c] first
      rw [List.singleton_append] at hopening hclosing
      omega

/-! ## The checks -/

/-- A call with two arguments that are not blank passes its check. -/
theorem checkCall_eq_ok {function : String} {inside : List Char}
    (h : shape 0 inside = (false, [false])) : checkCall (function, inside) = .ok () := by
  obtain ⟨hfirst, hothers⟩ := Prod.mk.inj h
  obtain ⟨second, hsecond, hblank⟩ := List.map_eq_singleton_iff.1 hothers
  have harguments : callArguments inside = [(pieces 0 inside).1, second] := by
    rw [callArguments, ← hsecond]
  unfold checkCall
  simp [harguments, hfirst, hblank]

/-- Whether a name stands in a text, with an opening parenthesis behind it that blanks may precede
and this text behind the parenthesis. -/
def CallsWith (name inside text : List Char) : Prop :=
  ∃ before gap, text = before ++ (name ++ (gap ++ '(' :: inside)) ∧ ∀ c ∈ gap, isBlank c = true

private theorem behind?_eq_some {start text rest : List Char} (h : behind? start text = some rest) :
    text = start ++ rest := by
  unfold behind? at h
  split at h
  · next hprefix =>
      cases h
      exact (List.prefix_iff_eq_append.1 (List.isPrefixOf_iff_prefix.1 hprefix)).symm
  · cases h

/-- What is found at the start of a text is such a call. -/
theorem pairCall?_eq_some {text : List Char} {call : String × List Char}
    (h : pairCall? text = some call) :
    call.1 ∈ pairFunctions ∧ CallsWith call.1.toList call.2 text := by
  obtain ⟨function, hmem, hfound⟩ := List.exists_of_findSome?_eq_some h
  cases hrest : behind? function.toList text with
  | none => simp [hrest] at hfound
  | some rest =>
      cases hinside : behind? ['('] (rest.dropWhile isBlank) with
      | none => simp [hrest, hinside] at hfound
      | some inside =>
          simp only [hrest, hinside, Option.bind_eq_bind, Option.bind_some, Option.pure_def,
            Option.some.injEq] at hfound
          subst hfound
          refine ⟨hmem, [], rest.takeWhile isBlank, ?_, fun c hc => List.mem_takeWhile_imp hc⟩
          have hsplit := @List.takeWhile_append_dropWhile _ isBlank rest
          rw [behind?_eq_some hinside, List.singleton_append] at hsplit
          rw [behind?_eq_some hrest, List.nil_append, hsplit]

private theorem mem_pairCalls {text : List Char} {call : String × List Char} :
    ∀ {previous : Option Char}, call ∈ pairCalls previous text →
      call.1 ∈ pairFunctions ∧ CallsWith call.1.toList call.2 text := by
  induction text with
  | nil =>
      intro previous hcall
      cases hcall
  | cons c rest ih =>
      intro previous hcall
      have hlater : call ∈ pairCalls (some c) rest →
          call.1 ∈ pairFunctions ∧ CallsWith call.1.toList call.2 (c :: rest) := by
        intro hmem
        obtain ⟨hfunction, before, gap, hrest, hgap⟩ := ih hmem
        exact ⟨hfunction, c :: before, gap, by rw [hrest, List.cons_append], hgap⟩
      rw [pairCalls] at hcall
      split at hcall
      · exact hlater hcall
      · rcases List.mem_append.1 hcall with hfirst | hcall
        · exact pairCall?_eq_some (Option.mem_toList.1 hfirst)
        · exact hlater hcall

private theorem forM_eq_ok {α : Type} {check : α → Except Fault Unit} {items : List α}
    (h : ∀ item ∈ items, check item = .ok ()) : items.forM check = .ok () := by
  induction items with
  | nil => rfl
  | cons item rest ih =>
      have hrest := ih fun other hother => h other (List.mem_cons_of_mem _ hother)
      have hstep : (item :: rest).forM check = check item >>= fun _ => rest.forM check := rfl
      rw [hstep, h item List.mem_cons_self]
      exact hrest

/-- The arguments pass if each call in the text has the right shape. -/
theorem checkArguments_eq_ok {entry : List Char}
    (h : ∀ function ∈ pairFunctions, ∀ inside, CallsWith function.toList inside entry →
      shape 0 inside = (false, [false])) : checkArguments entry = .ok () := by
  refine forM_eq_ok fun call hcall => ?_
  obtain ⟨hfunction, hcalls⟩ := mem_pairCalls hcall
  exact checkCall_eq_ok (h _ hfunction _ hcalls)

end DeskCalculator.Entry
