import DeskCalculator.Proofs.Entry.Outline
import Mathlib.Data.List.Infix
import Mathlib.Tactic

/-!
# The arguments of a call

The arguments of a call are found by one walk through the text behind its
parenthesis, with nothing but the number of further open parentheses at hand.
This file proves that they are what one takes them for (`callArguments_eq_iff`):
joined by commas they are the text up to the matching parenthesis, or up to the
end of the entry where no parenthesis matches; none of them closes a parenthesis
that it has not opened, or has a comma outside parentheses; and there is one more
of them than there are such commas.  No other pieces have these properties.

## Strategy

* What a text closes, and which of its commas stand outside parentheses, is said by
  counting in its starts (`StaysInside`, `Closes`, `OuterComma`).  Each of these notions
  takes the number of parentheses that are open before the text, and one character
  changes this number as it changes the depth of the walk (`count_depthBehind`).
* The walk reads nothing behind the end of the call (`Ends.pieces_append`), and each
  text has one such end (`exists_ends`, `encloses_iff`).
* How a text is cut follows from how the text behind its first character is cut
  (`splits_cons`, `splits_comma`).  So the walk cuts at the outer commas (`splits_pieces`),
  and there is no other way to cut there (`Splits.pieces_eq`).
-/

namespace DeskCalculator.Entry

/-! ## Open parentheses -/

/-- Whether one never leaves the `depth` parentheses that are open before a text: no start of it
closes more than these and its own. -/
def StaysInside (depth : Nat) (text : List Char) : Prop :=
  ∀ start, start <+: text → start.count ')' ≤ depth + start.count '('

/-- Whether a text closes the `depth` parentheses that are open before it and its own, and at no
place more than these. -/
structure Closes (depth : Nat) (text : List Char) : Prop where
  staysInside : StaysInside depth text
  count : text.count ')' = depth + text.count '('

/-- Whether a comma stands at this place of a text and all parentheses are closed there, the
`depth` ones that are open before the text among them. -/
structure OuterComma (depth : Nat) (text : List Char) (place : Nat) : Prop where
  comma : text[place]? = some ','
  closes : Closes depth (text.take place)

instance (depth : Nat) (text : List Char) : Decidable (StaysInside depth text) :=
  decidable_of_iff (∀ start ∈ text.inits, start.count ')' ≤ depth + start.count '(')
    (forall_congr' fun start => by rw [List.mem_inits])

instance (depth : Nat) (text : List Char) : Decidable (Closes depth text) :=
  decidable_of_iff (StaysInside depth text ∧ text.count ')' = depth + text.count '(')
    ⟨fun h => ⟨h.1, h.2⟩, fun h => ⟨h.staysInside, h.count⟩⟩

instance (depth : Nat) (text : List Char) (place : Nat) : Decidable (OuterComma depth text place) :=
  decidable_of_iff (text[place]? = some ',' ∧ Closes depth (text.take place))
    ⟨fun h => ⟨h.1, h.2⟩, fun h => ⟨h.comma, h.closes⟩⟩

/-- How many commas of a text stand outside parentheses. -/
def outerCommas (depth : Nat) (text : List Char) : Nat :=
  (List.range text.length).countP fun place => OuterComma depth text place

/-! ## One character -/

/-- A character changes the number of open parentheses by what it opens or closes. -/
theorem count_depthBehind {depth : Nat} {c : Char} (hc : ¬ (c = ')' ∧ depth = 0))
    (text : List Char) :
    (c :: text).count ')' + (depthBehind depth c + text.count '(') =
      text.count ')' + (depth + (c :: text).count '(') := by
  unfold depthBehind
  by_cases hopening : c = '('
  · subst hopening
    rw [if_pos rfl, List.count_cons_self, List.count_cons_of_ne (by decide)]
    omega
  · rw [if_neg hopening, List.count_cons_of_ne hopening]
    by_cases hclosing : c = ')'
    · subst hclosing
      have hdepth : depth ≠ 0 := fun hzero => hc ⟨rfl, hzero⟩
      rw [if_pos rfl, List.count_cons_self]
      omega
    · rw [if_neg hclosing, List.count_cons_of_ne hclosing]

theorem staysInside_nil (depth : Nat) : StaysInside depth [] := by
  intro start hstart
  rw [List.prefix_nil.1 hstart]
  exact Nat.zero_le _

theorem staysInside_cons {depth : Nat} {c : Char} {rest : List Char} :
    StaysInside depth (c :: rest) ↔
      ¬ (c = ')' ∧ depth = 0) ∧ StaysInside (depthBehind depth c) rest := by
  constructor
  · intro h
    have hc : ¬ (c = ')' ∧ depth = 0) := by
      rintro ⟨rfl, rfl⟩
      have hone := h [')'] ⟨rest, rfl⟩
      simp at hone
    refine ⟨hc, fun start hstart => ?_⟩
    have hle := h (c :: start) (List.cons_prefix_cons.2 ⟨rfl, hstart⟩)
    have hcount := count_depthBehind hc start
    omega
  · rintro ⟨hc, hrest⟩ start hstart
    cases start with
    | nil => exact Nat.zero_le _
    | cons d start =>
        obtain ⟨rfl, hprefix⟩ := List.cons_prefix_cons.1 hstart
        have hle := hrest start hprefix
        have hcount := count_depthBehind hc start
        omega

theorem closes_nil {depth : Nat} : Closes depth [] ↔ depth = 0 := by
  constructor
  · intro h
    exact h.count.symm
  · rintro rfl
    exact ⟨staysInside_nil 0, rfl⟩

theorem closes_cons {depth : Nat} {c : Char} {rest : List Char} :
    Closes depth (c :: rest) ↔
      ¬ (c = ')' ∧ depth = 0) ∧ Closes (depthBehind depth c) rest := by
  constructor
  · rintro ⟨hinside, hclosed⟩
    obtain ⟨hc, hrest⟩ := staysInside_cons.1 hinside
    have hcount := count_depthBehind hc rest
    exact ⟨hc, hrest, by omega⟩
  · rintro ⟨hc, hrest, hclosed⟩
    have hcount := count_depthBehind hc rest
    exact ⟨staysInside_cons.2 ⟨hc, hrest⟩, by omega⟩

theorem outerComma_cons_zero {depth : Nat} {c : Char} {rest : List Char} :
    OuterComma depth (c :: rest) 0 ↔ c = ',' ∧ depth = 0 := by
  constructor
  · rintro ⟨hcomma, hcloses⟩
    exact ⟨Option.some.inj hcomma, closes_nil.1 hcloses⟩
  · rintro ⟨rfl, rfl⟩
    exact ⟨rfl, closes_nil.2 rfl⟩

theorem outerComma_cons_succ {depth : Nat} {c : Char} {rest : List Char} {place : Nat} :
    OuterComma depth (c :: rest) (place + 1) ↔
      ¬ (c = ')' ∧ depth = 0) ∧ OuterComma (depthBehind depth c) rest place := by
  constructor
  · rintro ⟨hcomma, hcloses⟩
    obtain ⟨hc, hrest⟩ := closes_cons.1 hcloses
    exact ⟨hc, hcomma, hrest⟩
  · rintro ⟨hc, hcomma, hcloses⟩
    exact ⟨hcomma, closes_cons.2 ⟨hc, hcloses⟩⟩

theorem outerCommas_cons {depth : Nat} {c : Char} (hc : ¬ (c = ')' ∧ depth = 0))
    (rest : List Char) :
    outerCommas depth (c :: rest) =
      outerCommas (depthBehind depth c) rest + if c = ',' ∧ depth = 0 then 1 else 0 := by
  unfold outerCommas
  rw [List.length_cons, List.range_succ_eq_map, List.countP_cons, List.countP_map]
  congr 1
  · apply List.countP_congr
    intro place _
    simp [outerComma_cons_succ, hc]
  · simp [outerComma_cons_zero]

/-- A text that stays inside itself has no comma outside the parentheses that are open before it. -/
theorem outerCommas_eq_zero {depth : Nat} {text : List Char} (hdepth : depth ≠ 0)
    (htext : StaysInside 0 text) : outerCommas depth text = 0 := by
  apply List.countP_eq_zero.2
  intro place _ houter
  have hcloses := (of_decide_eq_true houter).closes.count
  have hle := htext _ (List.take_prefix place text)
  omega

theorem StaysInside.append {first second : List Char} (hsecond : StaysInside 0 second) :
    ∀ {depth : Nat}, StaysInside depth first → StaysInside depth (first ++ second) := by
  induction first with
  | nil =>
      intro depth _ start hstart
      have hle := hsecond start hstart
      omega
  | cons c rest ih =>
      intro depth hfirst
      obtain ⟨hc, hrest⟩ := staysInside_cons.1 hfirst
      exact staysInside_cons.2 ⟨hc, ih hrest⟩

/-! ## The end of a call -/

/-- Whether a call, with `depth` further parentheses open, goes on with a text inside it and ends
where the rest begins: the rest starts with the parenthesis that closes the call, or nothing is left
and none closes it. -/
inductive Ends (depth : Nat) (inside : List Char) : List Char → Prop
  | unclosed (hinside : StaysInside depth inside) : Ends depth inside []
  | closed (hinside : Closes depth inside) (behind : List Char) : Ends depth inside (')' :: behind)

theorem Ends.staysInside {depth : Nat} {inside rest : List Char} (h : Ends depth inside rest) :
    StaysInside depth inside := by
  cases h with
  | unclosed hinside => exact hinside
  | closed hinside _ => exact hinside.staysInside

theorem ends_cons {depth : Nat} {c : Char} {inside rest : List Char} :
    Ends depth (c :: inside) rest ↔
      ¬ (c = ')' ∧ depth = 0) ∧ Ends (depthBehind depth c) inside rest := by
  constructor
  · intro h
    cases h with
    | unclosed hinside =>
        obtain ⟨hc, hrest⟩ := staysInside_cons.1 hinside
        exact ⟨hc, .unclosed hrest⟩
    | closed hinside behind =>
        obtain ⟨hc, hrest⟩ := closes_cons.1 hinside
        exact ⟨hc, .closed hrest behind⟩
  · rintro ⟨hc, h⟩
    cases h with
    | unclosed hinside => exact .unclosed (staysInside_cons.2 ⟨hc, hinside⟩)
    | closed hinside behind => exact .closed (closes_cons.2 ⟨hc, hinside⟩) behind

/-- A call ends somewhere. -/
theorem exists_ends (text : List Char) :
    ∀ depth, ∃ inside rest, text = inside ++ rest ∧ Ends depth inside rest := by
  induction text with
  | nil =>
      intro depth
      exact ⟨[], [], rfl, .unclosed (staysInside_nil depth)⟩
  | cons c text ih =>
      intro depth
      by_cases hc : c = ')' ∧ depth = 0
      · obtain ⟨rfl, rfl⟩ := hc
        exact ⟨[], ')' :: text, rfl, .closed (closes_nil.2 rfl) text⟩
      · obtain ⟨inside, rest, rfl, hends⟩ := ih (depthBehind depth c)
        exact ⟨c :: inside, rest, rfl, ends_cons.2 ⟨hc, hends⟩⟩

/-- The walk reads nothing behind the end. -/
theorem Ends.pieces_append {inside rest : List Char} : ∀ {depth : Nat},
    Ends depth inside rest → pieces depth (inside ++ rest) = pieces depth inside := by
  induction inside with
  | nil =>
      intro depth h
      cases h with
      | unclosed _ => rfl
      | closed hinside behind =>
          have hdepth : depth = 0 := closes_nil.1 hinside
          rw [List.nil_append, pieces_cons, if_pos ⟨rfl, hdepth⟩]
          rfl
  | cons c inside ih =>
      intro depth h
      obtain ⟨hc, hrest⟩ := ends_cons.1 h
      rw [List.cons_append, pieces_cons, pieces_cons, if_neg hc, if_neg hc, ih hrest]
      by_cases hcomma : c = ',' ∧ depth = 0
      · obtain ⟨rfl, rfl⟩ := hcomma
        have hpieces : pieces 0 (inside ++ rest) = pieces 0 inside := ih hrest
        rw [hpieces]
      · rw [if_neg hcomma, if_neg hcomma]

/-! ## Pieces -/

/-- Whether a text is one piece where `depth` parentheses are open before it: it leaves none of
them, and no comma cuts it. -/
structure IsPiece (depth : Nat) (piece : List Char) : Prop where
  staysInside : StaysInside depth piece
  uncut : ∀ place, ¬ OuterComma depth piece place

theorem isPiece_nil (depth : Nat) : IsPiece depth [] where
  staysInside := staysInside_nil depth
  uncut := by
    rintro place ⟨hcomma, -⟩
    cases hcomma

private theorem isPiece_cons {depth : Nat} {c : Char} {rest : List Char} :
    IsPiece depth (c :: rest) ↔ ¬ (c = ')' ∧ depth = 0) ∧ ¬ (c = ',' ∧ depth = 0) ∧
      IsPiece (depthBehind depth c) rest := by
  constructor
  · rintro ⟨hinside, huncut⟩
    obtain ⟨hc, hrest⟩ := staysInside_cons.1 hinside
    refine ⟨hc, fun hcomma => ?_, hrest, fun place houter => ?_⟩
    · exact huncut 0 (outerComma_cons_zero.2 hcomma)
    · exact huncut (place + 1) (outerComma_cons_succ.2 ⟨hc, houter⟩)
  · rintro ⟨hc, hcomma, hinside, huncut⟩
    refine ⟨staysInside_cons.2 ⟨hc, hinside⟩, fun place houter => ?_⟩
    cases place with
    | zero => exact hcomma (outerComma_cons_zero.1 houter)
    | succ place => exact huncut place (outerComma_cons_succ.1 houter).2

theorem join_cons (c : Char) (first : List Char) (others : List (List Char)) :
    [','].intercalate ((c :: first) :: others) = c :: [','].intercalate (first :: others) := by
  cases others with
  | nil => simp
  | cons second more => simp

theorem join_nil_cons (second : List Char) (more : List (List Char)) :
    [','].intercalate ([] :: second :: more) = ',' :: [','].intercalate (second :: more) := by
  simp

private theorem staysInside_join {parts : List (List Char)}
    (h : ∀ piece ∈ parts, StaysInside 0 piece) :
    StaysInside 0 ([','].intercalate parts) := by
  induction parts with
  | nil => exact staysInside_nil 0
  | cons first others ih =>
      obtain ⟨hfirst, hothers⟩ := List.forall_mem_cons.1 h
      cases others with
      | nil => simpa using hfirst
      | cons second more =>
          have hcomma : StaysInside 0 (',' :: [','].intercalate (second :: more)) :=
            staysInside_cons.2 ⟨by simp, ih hothers⟩
          simpa using hcomma.append hfirst

/-! ## One way to cut -/

/-- Whether a text, with `depth` parentheses open before it, is cut at its outer commas into a first
piece and others.  Only the first piece starts inside these parentheses. -/
structure Splits (depth : Nat) (text first : List Char) (others : List (List Char)) : Prop where
  join : [','].intercalate (first :: others) = text
  isPiece_first : IsPiece depth first
  isPiece_others : ∀ piece ∈ others, IsPiece 0 piece
  length_others : others.length = outerCommas depth text

/-- A character at the start of the first piece. -/
theorem splits_cons {depth : Nat} {c : Char} {rest first : List Char}
    {others : List (List Char)} :
    Splits depth (c :: rest) (c :: first) others ↔ ¬ (c = ')' ∧ depth = 0) ∧
      ¬ (c = ',' ∧ depth = 0) ∧ Splits (depthBehind depth c) rest first others := by
  constructor
  · rintro ⟨hjoin, hfirst, hothers, hlength⟩
    obtain ⟨hc, hcomma, hpiece⟩ := isPiece_cons.1 hfirst
    rw [join_cons] at hjoin
    rw [outerCommas_cons hc, if_neg hcomma] at hlength
    exact ⟨hc, hcomma, (List.cons.inj hjoin).2, hpiece, hothers, hlength⟩
  · rintro ⟨hc, hcomma, hjoin, hpiece, hothers, hlength⟩
    refine ⟨?_, isPiece_cons.2 ⟨hc, hcomma, hpiece⟩, hothers, ?_⟩
    · rw [join_cons, hjoin]
    · rw [outerCommas_cons hc, if_neg hcomma, hlength]
      rfl

/-- A comma between the first piece, which is empty, and the second one. -/
theorem splits_comma {rest second : List Char} {more : List (List Char)} :
    Splits 0 (',' :: rest) [] (second :: more) ↔ Splits 0 rest second more := by
  have hcount : outerCommas 0 (',' :: rest) = outerCommas 0 rest + 1 :=
    outerCommas_cons (by decide) rest
  constructor
  · rintro ⟨hjoin, -, hothers, hlength⟩
    obtain ⟨hsecond, hmore⟩ := List.forall_mem_cons.1 hothers
    rw [join_nil_cons] at hjoin
    rw [hcount] at hlength
    exact ⟨(List.cons.inj hjoin).2, hsecond, hmore, Nat.succ.inj hlength⟩
  · rintro ⟨hjoin, hsecond, hmore, hlength⟩
    refine ⟨?_, isPiece_nil 0, List.forall_mem_cons.2 ⟨hsecond, hmore⟩, ?_⟩
    · rw [join_nil_cons, hjoin]
    · rw [hcount, List.length_cons, hlength]

/-- If the first piece is empty, the text starts with a comma outside parentheses. -/
theorem Splits.starts_with_comma {depth : Nat} {c : Char} {rest : List Char}
    {others : List (List Char)} (h : Splits depth (c :: rest) [] others) :
    c = ',' ∧ depth = 0 ∧ ∃ second more, others = second :: more := by
  cases others with
  | nil => cases h.join
  | cons second more =>
      have hinside : ∀ piece ∈ [] :: second :: more, StaysInside 0 piece :=
        List.forall_mem_cons.2
          ⟨staysInside_nil 0, fun piece hpiece => (h.isPiece_others piece hpiece).staysInside⟩
      have htext : StaysInside 0 (c :: rest) := h.join ▸ staysInside_join hinside
      have hjoin := h.join
      rw [join_nil_cons] at hjoin
      refine ⟨(List.cons.inj hjoin).1.symm, ?_, second, more, rfl⟩
      -- inside further parentheses there would be no comma to cut at
      by_contra hdepth
      have hlength := h.length_others
      rw [outerCommas_eq_zero hdepth htext] at hlength
      cases hlength

/-- The walk cuts a text that it does not leave at its outer commas. -/
theorem splits_pieces (text : List Char) : ∀ {depth : Nat}, StaysInside depth text →
    Splits depth text (pieces depth text).1 (pieces depth text).2 := by
  induction text with
  | nil =>
      intro depth _
      exact ⟨rfl, isPiece_nil depth, List.forall_mem_nil _, rfl⟩
  | cons c rest ih =>
      intro depth h
      obtain ⟨hc, hrest⟩ := staysInside_cons.1 h
      rw [pieces_cons, if_neg hc]
      by_cases hcomma : c = ',' ∧ depth = 0
      · obtain ⟨rfl, rfl⟩ := hcomma
        rw [if_pos ⟨rfl, rfl⟩]
        exact splits_comma.2 (ih hrest)
      · rw [if_neg hcomma]
        exact splits_cons.2 ⟨hc, hcomma, ih hrest⟩

/-- Who cuts a text at its outer commas cuts it as the walk does. -/
theorem Splits.pieces_eq {text : List Char} : ∀ {depth : Nat} {first : List Char}
    {others : List (List Char)}, StaysInside depth text → Splits depth text first others →
      pieces depth text = (first, others) := by
  induction text with
  | nil =>
      intro depth first others _ h
      have hlength : others.length = 0 := h.length_others
      obtain rfl := List.length_eq_zero_iff.1 hlength
      have hfirst : first = [] := by simpa using h.join
      rw [hfirst]
      rfl
  | cons c rest ih =>
      intro depth first others hinside h
      obtain ⟨hc, hrest⟩ := staysInside_cons.1 hinside
      cases first with
      | nil =>
          obtain ⟨rfl, rfl, second, more, rfl⟩ := h.starts_with_comma
          have hpieces : pieces 0 rest = (second, more) := ih hrest (splits_comma.1 h)
          rw [pieces_cons, if_neg hc, if_pos ⟨rfl, rfl⟩, hpieces]
      | cons d first =>
          have hjoin := h.join
          rw [join_cons] at hjoin
          obtain ⟨rfl, -⟩ := List.cons.inj hjoin
          obtain ⟨-, hcomma, hsplits⟩ := splits_cons.1 h
          rw [pieces_cons, if_neg hc, if_neg hcomma, ih hrest hsplits]

/-! ## Arguments -/

/-- Whether a text is cut into these pieces at its commas outside parentheses: joined by commas they
are the text, no start of a piece closes more parentheses than it opens, no comma of a piece stands
outside its parentheses, and there is one piece more than the text has such commas. -/
structure ArePieces (text : List Char) (parts : List (List Char)) : Prop where
  join : [','].intercalate parts = text
  isPiece : ∀ piece ∈ parts, IsPiece 0 piece
  length : parts.length = outerCommas 0 text + 1

private theorem arePieces_cons {text first : List Char} {others : List (List Char)} :
    ArePieces text (first :: others) ↔ Splits 0 text first others := by
  constructor
  · rintro ⟨hjoin, hpieces, hlength⟩
    obtain ⟨hfirst, hothers⟩ := List.forall_mem_cons.1 hpieces
    exact ⟨hjoin, hfirst, hothers, Nat.succ.inj hlength⟩
  · rintro ⟨hjoin, hfirst, hothers, hlength⟩
    exact ⟨hjoin, List.forall_mem_cons.2 ⟨hfirst, hothers⟩, congrArg Nat.succ hlength⟩

/-- The arguments in a text that no parenthesis ends are its pieces. -/
theorem callArguments_eq_iff_arePieces {text : List Char} (htext : StaysInside 0 text)
    {parts : List (List Char)} : callArguments text = parts ↔ ArePieces text parts := by
  constructor
  · rintro rfl
    exact arePieces_cons.2 (splits_pieces text htext)
  · intro h
    cases parts with
    | nil => cases h.length
    | cons first others =>
        have hpieces := (arePieces_cons.1 h).pieces_eq htext
        rw [callArguments, hpieces]

/-- Whether the parentheses at two places of an entry belong together: the text between them closes
what it opens, and at no place more. -/
structure Matches (entry : List Char) (opening closing : Nat) : Prop where
  opens : entry[opening]? = some '('
  closes : entry[closing]? = some ')'
  lt : opening < closing
  between : Closes 0 (entry.extract (opening + 1) closing)

/-- Whether this is the text between an opening parenthesis and the one that matches it, or the text
up to the end of the entry if none does. -/
inductive Encloses (entry : List Char) (opening : Nat) : List Char → Prop
  | closed {closing : Nat} (hmatches : Matches entry opening closing) :
      Encloses entry opening (entry.extract (opening + 1) closing)
  | unclosed (hnone : ∀ closing, ¬ Matches entry opening closing) :
      Encloses entry opening (entry.drop (opening + 1))

/-- What stands behind an opening parenthesis that another one matches. -/
theorem Matches.drop_eq {entry : List Char} {opening closing : Nat}
    (h : Matches entry opening closing) : ∃ behind,
      entry.drop (opening + 1) = entry.extract (opening + 1) closing ++ ')' :: behind := by
  obtain ⟨hlength, hclosing⟩ := List.getElem?_eq_some_iff.1 h.closes
  have hlt := h.lt
  have hplace : opening + 1 + (closing - (opening + 1)) = closing := by omega
  refine ⟨entry.drop (closing + 1), ?_⟩
  rw [← hclosing, ← List.drop_eq_getElem_cons hlength, List.extract_eq_take_drop]
  calc entry.drop (opening + 1)
      = (entry.drop (opening + 1)).take (closing - (opening + 1)) ++
          (entry.drop (opening + 1)).drop (closing - (opening + 1)) :=
        (List.take_append_drop _ _).symm
    _ = (entry.drop (opening + 1)).take (closing - (opening + 1)) ++ entry.drop closing := by
        rw [List.drop_drop, hplace]

private theorem matches_of_drop_eq {entry inside behind : List Char} {opening : Nat}
    (hopening : entry[opening]? = some '(')
    (hsplit : entry.drop (opening + 1) = inside ++ ')' :: behind) (hinside : Closes 0 inside) :
    Matches entry opening (opening + 1 + inside.length) ∧
      entry.extract (opening + 1) (opening + 1 + inside.length) = inside := by
  have hextract : entry.extract (opening + 1) (opening + 1 + inside.length) = inside := by
    rw [List.extract_eq_take_drop, Nat.add_sub_cancel_left, hsplit, List.take_left]
  have hclosing : entry[opening + 1 + inside.length]? = some ')' := by
    rw [← List.getElem?_drop, hsplit, List.getElem?_append_right (Nat.le_refl _), Nat.sub_self]
    rfl
  exact ⟨⟨hopening, hclosing, by omega, hextract.symm ▸ hinside⟩, hextract⟩

/-- Behind a text that closes everything, one more parenthesis leaves. -/
theorem Closes.not_staysInside {depth : Nat} {inside behind : List Char} (h : Closes depth inside) :
    ¬ StaysInside depth (inside ++ ')' :: behind) := by
  intro hstays
  have hle := hstays (inside ++ [')']) ⟨behind, by rw [List.append_assoc]; rfl⟩
  have hopening : (inside ++ [')']).count '(' = inside.count '(' := by simp
  have hclosing : (inside ++ [')']).count ')' = inside.count ')' + 1 := by simp
  have hclosed := h.count
  omega

/-- A parenthesis encloses the text at whose end its call ends. -/
theorem encloses_iff {entry inside : List Char} {opening : Nat}
    (hopening : entry[opening]? = some '(') :
    Encloses entry opening inside ↔
      ∃ rest, entry.drop (opening + 1) = inside ++ rest ∧ Ends 0 inside rest := by
  constructor
  · intro h
    cases h with
    | closed hmatches =>
        obtain ⟨behind, hsplit⟩ := hmatches.drop_eq
        exact ⟨')' :: behind, hsplit, .closed hmatches.between behind⟩
    | unclosed hnone =>
        obtain ⟨inside, rest, hsplit, hends⟩ := exists_ends (entry.drop (opening + 1)) 0
        cases hends with
        | closed hinside behind =>
            have hmatches := (matches_of_drop_eq hopening hsplit hinside).1
            exact absurd hmatches (hnone _)
        | unclosed hinside =>
            rw [List.append_nil] at hsplit
            exact ⟨[], (List.append_nil _).symm, .unclosed (hsplit ▸ hinside)⟩
  · rintro ⟨rest, hsplit, hends⟩
    cases hends with
    | closed hinside behind =>
        obtain ⟨hmatches, hextract⟩ := matches_of_drop_eq hopening hsplit hinside
        exact hextract ▸ .closed hmatches
    | unclosed hinside =>
        rw [List.append_nil] at hsplit
        rw [← hsplit] at hinside ⊢
        refine .unclosed fun closing hmatches => ?_
        obtain ⟨behind, hbehind⟩ := hmatches.drop_eq
        rw [hbehind] at hinside
        exact hmatches.between.not_staysInside hinside

/-- Behind each opening parenthesis there is one text that it encloses, and the arguments are the
pieces into which the commas outside further parentheses cut this text. -/
theorem callArguments_eq_iff {entry : List Char} {opening : Nat}
    (hopening : entry[opening]? = some '(') :
    (∃! inside, Encloses entry opening inside) ∧
      ∀ inside, Encloses entry opening inside → ∀ arguments,
        callArguments (entry.drop (opening + 1)) = arguments ↔ ArePieces inside arguments := by
  have harguments : ∀ inside, Encloses entry opening inside → ∀ arguments,
      callArguments (entry.drop (opening + 1)) = arguments ↔ ArePieces inside arguments := by
    intro inside hinside arguments
    obtain ⟨rest, hsplit, hends⟩ := (encloses_iff hopening).1 hinside
    have hcall : callArguments (inside ++ rest) = callArguments inside := by
      rw [callArguments, hends.pieces_append, callArguments]
    rw [hsplit, hcall]
    exact callArguments_eq_iff_arePieces hends.staysInside
  refine ⟨?_, harguments⟩
  obtain ⟨inside, hinside⟩ := exists_ends (entry.drop (opening + 1)) 0
  have hencloses := (encloses_iff hopening).2 hinside
  refine ⟨inside, hencloses, fun other hother => ?_⟩
  have hfirst := (harguments inside hencloses _).1 rfl
  have hsecond := (harguments other hother _).1 rfl
  rw [← hsecond.join, hfirst.join]

theorem callArguments_eq_iff_root :
    Encloses "root(nCr(4,2),64)+1".toList 4 "nCr(4,2),64".toList ∧
      ArePieces "nCr(4,2),64".toList ["nCr(4,2)".toList, "64".toList] := by
  have hmatches : Matches "root(nCr(4,2),64)+1".toList 4 16 :=
    ⟨by decide, by decide, by decide, by decide⟩
  have hencloses : Encloses "root(nCr(4,2),64)+1".toList 4 "nCr(4,2),64".toList := .closed hmatches
  have harguments := (callArguments_eq_iff hmatches.opens).2 _ hencloses
  exact ⟨hencloses, (harguments _).1 (by decide)⟩

end DeskCalculator.Entry
