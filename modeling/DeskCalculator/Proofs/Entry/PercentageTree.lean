import DeskCalculator.Proofs.Entry.Percentages

/-!
# Trees of percentages

What the parser reads in the canonical form of a percentage (`parse_percentage`).  For
plain numbers it is what the percentage means.  Of any other number before the operator
only the plain number at its end is taken, and the percentage of a share that is no plain
number cannot be read at all (`percentage_of_scientific`).
-/

namespace DeskCalculator.Entry

open Text Surface Token

/-! ## Reading behind what has been read -/

/-- Reads the rest of a text where an operand is due. -/
def readRest (pending : List Expr.Pending) (position : Nat) (rest : List Char) :
    Except Fault Expr := do
  let tokens ← scan position rest
  Expr.finish (← tokens.foldlM Expr.step ⟨pending, none⟩)

theorem parse_eq_readRest (text : List Char) :
    Expr.parse (String.ofList text) = readRest [] 0 text := by
  rw [Expr.parse, Token.ofText, String.toList_ofList]
  rfl

/-- The number that a text denotes. -/
def numberOf (text : List Char) : Expr :=
  .number (Decimal.read text).toFloat

theorem value_ofList (kind : TokenKind) (text : List Char) (position : Nat) :
    Token.value ⟨kind, String.ofList text, position⟩ = (Decimal.read text).toFloat := by
  rw [Token.value, String.toList_ofList]

variable {pending : List Expr.Pending} {position : Nat} {base share rest : List Char}
  {operator : Char}

theorem scan_chars {chars : List Char} {kind : TokenKind} (hne : chars ≠ [])
    (hleading : leading? (chars ++ rest) = some (kind, chars.length)) :
    scan position (chars ++ rest) = (scan (position + chars.length) rest).map
      (⟨kind, String.ofList chars, position⟩ :: ·) := by
  cases hrest : scan (position + chars.length) rest with
  | ok others => exact scan_append hne hleading hrest
  | error fault =>
      cases chars with
      | nil => exact absurd rfl hne
      | cons c more =>
          have hdrop : (more ++ rest).drop ((c :: more).length - 1) = rest := by simp
          rw [List.cons_append] at hleading ⊢
          rw [scan, hleading]
          simp only [hdrop, hrest]
          rfl

theorem scan_number {number : List Char} (h : Shape number) (hrest : Clear rest) :
    scan position (number ++ rest) = (scan (position + number.length) rest).map
      (⟨.number, String.ofList number, position⟩ :: ·) :=
  scan_chars h.ne_nil (h.leading?_append hrest)

/-- The symbols other than a star, with which another token can start. -/
theorem scan_symbol {c : Char} (hc : c ∈ ['+', '-', '/', '(', ')']) :
    scan position (c :: rest) = (scan (position + 1) rest).map
      (⟨.symbol, String.ofList [c], position⟩ :: ·) := by
  have hall : ['+', '-', '/', '(', ')'].all
      (fun c => isClear c && decide (c ∈ symbols) && c != '*') = true := by
    decide
  have hclear := List.all_eq_true.1 hall c hc
  simp only [Bool.and_eq_true, decide_eq_true_eq, bne_iff_ne] at hclear
  refine scan_chars (List.cons_ne_nil c []) ?_
  rw [List.singleton_append, leading?_of_isClear hclear.1.1 fun hstar => absurd hstar hclear.2,
    if_pos hclear.1.2]
  rfl

theorem scan_space : scan position (' ' :: rest) = scan (position + 1) rest :=
  scan_blank (by decide) leading?_blank

private theorem scan_star :
    scan position ('*' :: ' ' :: rest) = (scan (position + 1) (' ' :: rest)).map
      (⟨.symbol, String.ofList ['*'], position⟩ :: ·) := by
  have hstar : ∀ c ∈ (' ' :: rest).head?, c ≠ '*' := by
    rintro c ⟨⟩
    decide
  refine @scan_chars position (' ' :: rest) ['*'] .symbol (List.cons_ne_nil _ _) ?_
  rw [List.singleton_append, leading?_of_isClear (by decide) fun _ => hstar, if_pos (by decide)]
  rfl

theorem clear_of_isClear {c : Char} (hc : isClear c = true) : Clear (c :: rest) := by
  rintro d ⟨⟩
  exact hc

/-! ## Shares and parts as operands -/

theorem PlainNumber.length_eq {number : List Char} (h : PlainNumber number) :
    plainLength number = number.length := by
  have hdrop : number.drop (plainLength number) = [] := by
    unfold PlainNumber plain? at h
    simp only at h
    split at h
    · cases h
    · exact (Prod.mk.inj (Option.some.inj h)).2
  have hle := plainLength_le number
  rw [List.drop_eq_nil_iff] at hdrop
  omega

/-- A plain number is a mantissa. -/
theorem PlainNumber.isMantissa {number : List Char} (h : PlainNumber number) :
    IsMantissa number := by
  have hlength := h.length_eq
  refine ⟨h.ne_nil, ?_⟩
  have hbehind : (number.drop (digitRun number)).length = number.length - digitRun number :=
    List.length_drop
  unfold plainLength at hlength
  unfold mantissaLength
  simp only at hlength ⊢
  split_ifs at hlength with hwhole
  · exact absurd (List.length_eq_zero_iff.1 hlength.symm) h.ne_nil
  · cases hdrop : number.drop (digitRun number) with
    | nil =>
        rw [hdrop] at hlength
        exact hlength
    | cons c rest =>
        rw [hdrop] at hlength
        rw [hdrop, List.length_cons] at hbehind
        by_cases hpoint : c = '.'
        · subst hpoint
          simp only [hwhole, false_and, if_false] at hlength ⊢
          split_ifs at hlength with hnone
          · omega
          · exact hlength
        · simpa [hpoint] using hlength

theorem PlainNumber.shape {number : List Char} (h : PlainNumber number) : Shape number :=
  .mantissa h.isMantissa

theorem shape_hundred : Shape "100".toList :=
  PlainNumber.shape (by decide)

/-- A number of hundredths is read as a quotient. -/
theorem readRest_hundredths (hshare : PlainNumber share) :
    readRest pending position (hundredths share) =
      Expr.finish ⟨pending, some (.operation (numberOf share) "/" (numberOf "100".toList))⟩ := by
  have htext : hundredths share = '(' :: (share ++ '/' :: ("100".toList ++ [')'])) := by
    rw [hundredths_of_plain hshare]
    rfl
  rw [readRest, htext, scan_symbol (by decide),
    scan_number hshare.shape (clear_of_isClear (by decide)), scan_symbol (by decide),
    scan_number shape_hundred (clear_of_isClear (by decide)), scan_symbol (by decide), scan,
    numberOf, numberOf, ← value_ofList .number share (position + 1),
    ← value_ofList .number "100".toList 0]
  rfl

/-- The percentage of a base is read as a product divided by a hundred. -/
theorem readRest_product (hbase : PlainNumber base) (hshare : PlainNumber share) :
    readRest pending position ("(".toList ++ base ++ " * ".toList ++ share ++ " / 100)".toList) =
      Expr.finish ⟨pending, some (.operation (.operation (numberOf base) "*" (numberOf share)) "/"
        (numberOf "100".toList))⟩ := by
  have htext : "(".toList ++ base ++ " * ".toList ++ share ++ " / 100)".toList =
      '(' :: (base ++ ' ' :: '*' :: ' ' :: (share ++ ' ' :: '/' :: ' ' ::
        ("100".toList ++ [')']))) := by
    simp
  rw [readRest, htext, scan_symbol (by decide),
    scan_number hbase.shape (clear_of_isClear (by decide)), scan_space, scan_star, scan_space,
    scan_number hshare.shape (clear_of_isClear (by decide)), scan_space, scan_symbol (by decide),
    scan_space, scan_number shape_hundred (clear_of_isClear (by decide)),
    scan_symbol (by decide), scan, numberOf, numberOf, numberOf,
    ← value_ofList .number base 0, ← value_ofList .number share 0,
    ← value_ofList .number "100".toList 0]
  rfl

/-! ## Operations -/

/-- Behind a number and an operator the right operand is due. -/
theorem readRest_operator {text : List Char} (h : Shape text)
    (hoperator : operator = '+' ∨ operator = '-') :
    readRest [] position (text ++ operator :: rest) =
      readRest [.operation (numberOf text) (String.ofList [operator])]
        (position + text.length + 1) rest := by
  have hclear : Clear (operator :: rest) := by
    rcases hoperator with rfl | rfl <;> exact clear_of_isClear (by decide)
  have hsymbol : operator ∈ ['+', '-', '/', '(', ')'] := by
    rcases hoperator with rfl | rfl <;> decide
  rw [readRest, readRest, scan_number h hclear, scan_symbol hsymbol, numberOf,
    ← value_ofList .number text position]
  cases scan (position + text.length + 1) rest with
  | error fault => rfl
  | ok others => rcases hoperator with rfl | rfl <;> rfl

/-- Blanks around the operator make no difference to the tree. -/
theorem readRest_spaced_operator {text : List Char} (h : Shape text)
    (hoperator : operator = '+' ∨ operator = '-') :
    readRest [] position (text ++ ' ' :: operator :: ' ' :: rest) =
      readRest [.operation (numberOf text) (String.ofList [operator])]
        (position + text.length + 1 + 1 + 1) rest := by
  have hclear : Clear (' ' :: operator :: ' ' :: rest) := clear_of_isClear (by decide)
  have hsymbol : operator ∈ ['+', '-', '/', '(', ')'] := by
    rcases hoperator with rfl | rfl <;> decide
  rw [readRest, readRest, scan_number h hclear, scan_space, scan_symbol hsymbol, scan_space,
    numberOf, ← value_ofList .number text position]
  cases scan (position + text.length + 1 + 1 + 1) rest with
  | error fault => rfl
  | ok others => rcases hoperator with rfl | rfl <;> rfl

/-! ## Shares that are no plain numbers -/

/-- A percent sign that is left makes a text unreadable. -/
theorem not_mem_of_scanned {text : List Char} {tokens : List Token} (h : Scanned text tokens) :
    '%' ∉ text := by
  induction h with
  | nil => simp
  | @token kind chars rest tokens position chunk others ih =>
      refine fun hmem => (List.mem_append.1 hmem).elim (fun hmem => ?_) ih
      cases chunk with
      | number mem ne => exact absurd (mem _ hmem) (by decide)
      | name mem ne stop => exact absurd (mem _ hmem) (by decide)
      | power => exact absurd hmem (by decide)
      | symbol mem =>
          rw [← List.mem_singleton.1 hmem] at mem
          exact absurd mem (by decide)
  | @blank c rest tokens hblank others ih =>
      refine fun hmem => (List.mem_cons.1 hmem).elim (fun hc => ?_) ih
      rw [← hc] at hblank
      exact absurd hblank (by decide)

private theorem readRest_percent (h : '%' ∈ rest) :
    ∃ fault, readRest pending position rest = .error fault := by
  cases hscan : scan position rest with
  | error fault => exact ⟨fault, by rw [readRest, hscan]; rfl⟩
  | ok tokens => exact absurd h (not_mem_of_scanned (scanned_of_scan hscan))

private theorem readRest_point :
    readRest pending position ('.' :: '(' :: rest) =
      .error (.unexpectedCharacter '.' position) := by
  have hleading : leading? ('.' :: '(' :: rest) = none := by
    have hdigits : digitRun ('.' :: '(' :: rest) = 0 := digitRun_eq_zero (by rintro c ⟨⟩; decide)
    have hdigits' : digitRun ('(' :: rest) = 0 := digitRun_eq_zero (by rintro c ⟨⟩; decide)
    have hnumeral : numeralLength ('.' :: '(' :: rest) = 0 := by
      simp [numeralLength, mantissaLength, hdigits, hdigits']
    have hname : nameLength ('.' :: '(' :: rest) = 0 := by
      have hletter : isLetter '.' = false := by decide
      simp [nameLength, hletter]
    unfold leading?
    rw [hnumeral, hname]
    rfl
  have hblank : isBlank '.' = false := by decide
  rw [readRest, scan, hleading, if_neg (by simp [hblank])]
  rfl

/-- A mark without digits is a name, and no name can stand behind a number. -/
theorem readRest_mark {mantissa : List Char} {mark : Char} (h : IsMantissa mantissa)
    (hmark : mark = 'e' ∨ mark = 'E') (hrest : exponentLength (mark :: rest) = 0) :
    ∃ fault, readRest pending position (mantissa ++ mark :: rest) = .error fault := by
  have hstops : Stops (mark :: rest) := by
    rintro c ⟨⟩
    rcases hmark with rfl | rfl <;> exact ⟨by decide, by decide⟩
  have hname : nameLength (mark :: rest) ≠ 0 := by
    have hletter : isLetter mark = true := by rcases hmark with rfl | rfl <;> decide
    simp [nameLength, hletter]
  have hleading : leading? (mark :: rest) = some (.name, nameLength (mark :: rest)) := by
    unfold leading?
    rw [numeralLength_of_stops hstops, if_neg (by simp), if_pos hname]
  rw [readRest, scan_chars h.ne_nil (leading?_mantissa h hstops hrest), scan, hleading]
  simp only
  cases scan (position + mantissa.length + nameLength (mark :: rest))
      (rest.drop (nameLength (mark :: rest) - 1)) with
  | error fault => exact ⟨fault, rfl⟩
  | ok others => exact ⟨_, rfl⟩

theorem hundredths_append {front number : List Char}
    (h : ∀ before c after, front = before ++ c :: after → ¬ PlainNumber (c :: after ++ number)) :
    hundredths (front ++ number) = front ++ hundredths number := by
  induction front with
  | nil => rfl
  | cons c rest ih =>
      have hfirst := h [] c rest rfl
      rw [List.cons_append] at hfirst ⊢
      rw [hundredths, if_neg hfirst, ih, List.cons_append]
      intro before d after hsplit
      exact h (c :: before) d after (by rw [hsplit, List.cons_append])

private theorem not_plainNumber_point {digits : List Char}
    (hdigits : ∀ c ∈ digits, isDigit c = true) :
    ¬ PlainNumber (digits ++ ['.']) := by
  intro h
  have hlength := h.length_eq
  have hrun : digitRun (digits ++ ['.']) = digits.length :=
    digitRun_append hdigits (by rintro c ⟨⟩; decide)
  have hnone : digitRun [] = 0 := rfl
  unfold plainLength at hlength
  simp only [hrun, List.drop_left, hnone, if_true, List.length_append, List.length_cons] at hlength
  split_ifs at hlength
  omega

private theorem not_plainNumber_of_mem {text : List Char} {c : Char} (hc : c ∈ text)
    (hnot : isDigit c = false ∧ c ≠ '.') : ¬ PlainNumber text :=
  fun h => not_mem_numeric h.mem hnot hc

/-- No plain number goes back behind a character that is neither a digit nor a point. -/
theorem not_plainNumber_behind {first second number before after : List Char} {c : Char}
    (hsplit : first ++ second = before ++ c :: after) (hne : second ≠ [])
    (hsecond : ∀ d ∈ second, isDigit d = false ∧ d ≠ '.') :
    ¬ PlainNumber (c :: after ++ number) := by
  obtain ⟨last, hlast⟩ : ∃ last, second.getLast? = some last :=
    ⟨_, List.getLast?_eq_some_getLast hne⟩
  have hbehind : (c :: after).getLast? = some last := by
    rw [← List.getLast?_append_of_ne_nil before (List.cons_ne_nil c after), ← hsplit,
      List.getLast?_append_of_ne_nil first hne, hlast]
  exact not_plainNumber_of_mem (List.mem_append_left number (List.mem_of_getLast? hbehind))
    (hsecond last (List.mem_of_getLast? hlast))

/-- Behind the mark of an exponent stand no digits if they have been put in parentheses. -/
theorem exponentLength_group {mark : Char} {sign : List Char}
    (hsign : sign = [] ∨ sign = ['+'] ∨ sign = ['-']) :
    exponentLength (mark :: (sign ++ '(' :: rest)) = 0 := by
  have hsplit : (splitSign (sign ++ '(' :: rest)).2 = '(' :: rest :=
    splitSign_of_digits hsign (by rintro c ⟨⟩; decide)
  have hrun : digitRun ('(' :: rest) = 0 := digitRun_eq_zero (by rintro c ⟨⟩; decide)
  simp [exponentLength, hsplit, hrun]

/-- Of a number with an exponent, only the digits of the exponent are taken. -/
theorem hundredths_scientific {mark : Char} {mantissa sign run : List Char}
    (hmark : mark = 'e' ∨ mark = 'E') (hsign : sign = [] ∨ sign = ['+'] ∨ sign = ['-'])
    (hne : run ≠ []) (hdigits : ∀ c ∈ run, isDigit c = true) :
    hundredths (mantissa ++ mark :: (sign ++ run)) =
      mantissa ++ mark :: (sign ++ '(' :: (run ++ "/100)".toList)) := by
  have hmark' : isDigit mark = false ∧ mark ≠ '.' := by
    rcases hmark with rfl | rfl <;> exact ⟨by decide, by decide⟩
  have hsign' : ∀ d ∈ sign, isDigit d = false ∧ d ≠ '.' := by
    rcases hsign with rfl | rfl | rfl
    · exact List.forall_mem_nil _
    · exact List.forall_mem_singleton.2 ⟨by decide, by decide⟩
    · exact List.forall_mem_singleton.2 ⟨by decide, by decide⟩
  have hsplit : mantissa ++ mark :: (sign ++ run) = (mantissa ++ mark :: sign) ++ run := by
    simp
  rw [hsplit, hundredths_append, hundredths_of_plain (plainNumber_of_digits hne hdigits)]
  · simp
  · intro before c after hparts
    exact not_plainNumber_behind hparts (List.cons_ne_nil mark sign)
      (List.forall_mem_cons.2 ⟨hmark', hsign'⟩)

/-- The percentage of a number with an exponent cannot be read: a mark without digits is left. -/
theorem readRest_hundredths_scientific {mantissa exponent : List Char} (is : IsMantissa mantissa)
    (has : IsExponent exponent) (previous : Option Char) : ∃ fault, readRest pending position
      (replaceAll eulerSign previous (hundredths (mantissa ++ exponent))) = .error fault := by
  cases has with
  | @of mark sign run hmark hsign hne hdigits =>
      have hbefore : 'e' ∉ mantissa := not_mem_numeric is.numeric (by decide)
      have hrest : 'e' ∉ sign ++ '(' :: (run ++ "/100)".toList) := by
        have hclosing : 'e' ∉ "/100)".toList := by decide
        have hrun : 'e' ∉ run := not_mem_numeric (fun c hc => .inl (hdigits c hc)) (by decide)
        rcases hsign with rfl | rfl | rfl <;> simpa [hclosing] using hrun
      obtain ⟨written, hwritten, hpass⟩ :=
        replaceAll_eulerSign_mark hbefore hmark hrest previous
      rw [hundredths_scientific hmark hsign hne hdigits, hpass]
      exact readRest_mark is hwritten (exponentLength_group hsign)

/-- The percentage of a number that is not plain cannot be read. -/
theorem readRest_not_plain (hshare : Shape share) (h : ¬ PlainNumber share)
    (previous : Option Char) : ∃ fault,
      readRest pending position (replaceAll eulerSign previous (hundredths share)) =
        .error fault := by
  cases hshare with
  | mantissa is =>
      have hnone : 'e' ∉ share := not_mem_numeric is.numeric (by decide)
      rcases is.cases with hplain | ⟨digits, hne, hdigits, rfl | rfl⟩
      · exact absurd hplain h
      · -- no percentage is found
        have htext : hundredths (digits ++ ['.']) = digits ++ ['.', '%'] := by
          refine hundredths_append fun before c after hsplit => not_plainNumber_point ?_
          exact fun d hd => hdigits d (by rw [hsplit]; exact List.mem_append_right before hd)
        rw [htext, replacesSign_eulerSign.needs.replaceAll_eq (by simpa using hnone)]
        exact readRest_percent (by simp)
      · -- the point is left over
        have htext : hundredths ('.' :: digits) = '.' :: '(' :: (digits ++ "/100)".toList) := by
          have hplain := hundredths_of_plain (plainNumber_of_digits hne hdigits)
          rw [hundredths, if_neg h, hplain, List.cons_append]
        have hclosing : 'e' ∉ "/100)".toList := by decide
        have hrest : 'e' ∉ '.' :: '(' :: (digits ++ "/100)".toList) := by
          simpa [hclosing] using hnone
        rw [htext, replacesSign_eulerSign.needs.replaceAll_eq hrest]
        exact ⟨_, readRest_point⟩
  | scientific is has => exact readRest_hundredths_scientific is has previous

/-! ## Percentages -/

/-- The hundredth part of a tree. -/
def hundredthOf (tree : Expr) : Expr := .operation tree "/" (numberOf "100".toList)

/-- The percentage of a number, or a number of hundredths without one. -/
def partOf (base? : Option (List Char)) (share : List Char) : Expr :=
  match base? with
  | some base => hundredthOf (.operation (numberOf base) "*" (numberOf share))
  | none => hundredthOf (numberOf share)

/-- The percentage of a plain number is read as a quotient. -/
theorem parse_share (hshare : PlainNumber share) :
    Expr.parse (String.ofList (canonical (share ++ ['%']))) =
      .ok (hundredthOf (numberOf share)) := by
  have hlike := numberLike_of_numeric hshare.mem
  have hnone : 'e' ∉ hundredths share := by
    have hrest := not_mem_numeric hshare.mem (c := 'e') (by decide)
    simp [hundredths_of_plain hshare, hrest]
  rw [parse_eq_readRest, canonical_share hlike, replacesSign_eulerSign.needs.replaceAll_eq hnone,
    readRest_hundredths hshare]
  rfl

/-- Behind a number, it is read as the part of the plain number at the end of that number. -/
theorem parse_percentage_of_plain (hbase : Shape base) (hshare : PlainNumber share)
    (hoperator : operator = '+' ∨ operator = '-') :
    Expr.parse (String.ofList (canonical (percentage base operator share))) =
      .ok (.operation (numberOf base) (String.ofList [operator])
        (partOf (percentBase? base) share)) := by
  have hlike := numberLike_of_numeric hshare.mem
  obtain ⟨hshape, hread⟩ := shape_replaceAll_eulerSign hbase none
  have hsame : numberOf (replaceAll eulerSign none base) = numberOf base := by
    rw [numberOf, hread, numberOf]
  have hoperator' : operator ≠ 'e' := by
    rintro rfl
    simp at hoperator
  have hrest := not_mem_numeric hshare.mem (c := 'e') (by decide)
  rw [parse_eq_readRest, canonical_percentage hbase.numberLike hlike hoperator, baseOf?,
    if_pos hshare]
  cases hpart : percentBase? base with
  | none =>
      have hnone : 'e' ∉ writtenBehind none operator share := by
        simp [writtenBehind, hundredths_of_plain hshare, hrest, hoperator'.symm]
      rw [replacesSign_eulerSign.needs.replaceAll_eq hnone, writtenBehind,
        readRest_operator hshape hoperator, readRest_hundredths hshare, hsame]
      rfl
  | some part =>
      have hplain := plainNumber_of_percentBase? hpart
      have hnone : 'e' ∉ writtenBehind (some part) operator share := by
        have hpart' := not_mem_numeric hplain.mem (c := 'e') (by decide)
        simp [writtenBehind, percentageOf, hrest, hpart', hoperator'.symm]
      have htext : writtenBehind (some part) operator share = ' ' :: operator :: ' ' ::
          ("(".toList ++ part ++ " * ".toList ++ share ++ " / 100)".toList) := by
        simp [writtenBehind, percentageOf]
      rw [replacesSign_eulerSign.needs.replaceAll_eq hnone, htext,
        readRest_spaced_operator hshape hoperator, readRest_product hplain hshare, hsame]
      rfl

/-- The percentage of any other number is refused, behind a number and on its own. -/
theorem parse_not_plain (hbase : Shape base) (hshare : Shape share) (h : ¬ PlainNumber share)
    (hoperator : operator = '+' ∨ operator = '-') :
    (∃ fault, Expr.parse (String.ofList (canonical (share ++ ['%']))) = .error fault) ∧
      ∃ fault, Expr.parse (String.ofList (canonical (percentage base operator share))) =
        .error fault := by
  obtain ⟨hshape, -⟩ := shape_replaceAll_eulerSign hbase none
  have hoperator' : ∀ previous, eulerSign previous (operator :: hundredths share) = none := by
    refine fun previous => eulerSign_of_ne ?_
    rintro rfl
    simp at hoperator
  refine ⟨?_, ?_⟩
  · rw [parse_eq_readRest, canonical_share hshare.numberLike]
    exact readRest_not_plain hshare h none
  · rw [parse_eq_readRest, canonical_percentage hbase.numberLike hshare.numberLike hoperator,
      baseOf?, if_neg h, writtenBehind, replaceAll_cons_of_none (hoperator' _),
      readRest_operator hshape hoperator]
    exact readRest_not_plain hshare h (some operator)

/-- What the parser reads in the canonical form of a percentage of a number.  A plain share of a
plain number is the share of that number, and of any other number the share of the plain number at
its end, or of nothing if it has none.  Any other share is refused. -/
theorem parse_percentage {base share : List Char} {operator : Char} (hbase : IsNumber base)
    (hshare : IsNumber share) (hoperator : operator = '+' ∨ operator = '-') :
    (PlainNumber share →
      Expr.parse (String.ofList (canonical (share ++ ['%']))) = .ok (hundredthOf (numberOf share)) ∧
      Expr.parse (String.ofList (canonical (base ++ operator :: (share ++ ['%'])))) =
        .ok (.operation (numberOf base) (String.ofList [operator])
          (partOf (percentBase? base) share))) ∧
    (¬ PlainNumber share →
      (∃ fault, Expr.parse (String.ofList (canonical (share ++ ['%']))) = .error fault) ∧
      ∃ fault, Expr.parse (String.ofList (canonical (base ++ operator :: (share ++ ['%'])))) =
        .error fault) ∧
    (PlainNumber base → percentBase? base = some base) := by
  have hshape := shape_of_isNumber hbase
  refine ⟨fun hplain => ⟨parse_share hplain, parse_percentage_of_plain hshape hplain hoperator⟩,
    fun hplain => parse_not_plain hshape (shape_of_isNumber hshare) hplain hoperator,
    percentBase?_of_plain⟩

/-- A plain share of a plain number. -/
theorem parse_percentage_two_hundred :
    IsNumber "200".toList ∧ IsNumber "10".toList ∧ PlainNumber "10".toList ∧
      Expr.parse (String.ofList (canonical "200+10%".toList)) =
        .ok (.operation (numberOf "200".toList) "+"
          (hundredthOf (.operation (numberOf "200".toList) "*" (numberOf "10".toList)))) := by
  have hbase : IsNumber "200".toList := by decide
  have hshare : IsNumber "10".toList := by decide
  have hplain : PlainNumber "10".toList := by decide
  exact ⟨hbase, hshare, hplain, ((parse_percentage hbase hshare (.inl rfl)).1 hplain).2⟩

/-- Only the digits of its exponent are taken of a number that has one. -/
theorem percentage_of_scientific :
    IsNumber "1e5".toList ∧ IsNumber "10".toList ∧
      canonical "1e5+10%".toList = "1e5 + (5 * 10 / 100)".toList ∧
      Expr.parse (String.ofList (canonical "1e5+10%".toList)) ≠
        .ok (.operation (numberOf "1e5".toList) "+"
          (hundredthOf (.operation (numberOf "1e5".toList) "*" (numberOf "10".toList)))) := by
  have hbase : IsNumber "1e5".toList := by decide
  have hshare : PlainNumber "10".toList := by decide
  have hpart : percentBase? "1e5".toList = some "5".toList := by decide
  have hparse := parse_percentage_of_plain (shape_of_isNumber hbase) hshare
    (show '+' = '+' ∨ '+' = '-' from .inl rfl)
  rw [hpart] at hparse
  refine ⟨hbase, by decide, by decide +kernel, fun h => ?_⟩
  have hparts := (Expr.operation.inj (Except.ok.inj (hparse.symm.trans h))).2.2
  have hproducts := (Expr.operation.inj hparts).1
  have hbases : numberOf "5".toList = numberOf "1e5".toList := (Expr.operation.inj hproducts).1
  have hbits := congrArg Float.toBits (Expr.number.inj hbases)
  revert hbits
  decide

end DeskCalculator.Entry
