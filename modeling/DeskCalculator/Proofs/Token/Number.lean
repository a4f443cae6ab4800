import DeskCalculator.Proofs.Entry.Boundary
import DeskCalculator.Proofs.Entry.OpenOperator
import DeskCalculator.Proofs.Surface.Scanning
import DeskCalculator.Proofs.Token.Chunks

/-!
# Numbers as the scanner takes them

A number token is a mantissa, perhaps with an exponent behind a mark (`Shape`).  That is
more than a plain number, which has digits on both sides of its point and no exponent
(`IsMantissa.cases`).  A number is found as a whole before any clear character
(`Shape.leading?_append`), and which of the two marks it has does not matter
(`read_mark`).
-/

namespace DeskCalculator.Token

open Text Entry Surface

/-- Whether a text as a whole is a number token. -/
def IsNumber (text : List Char) : Prop := leading? text = some (.number, text.length)

instance (text : List Char) : Decidable (IsNumber text) :=
  inferInstanceAs (Decidable (leading? text = some (.number, text.length)))

/-! ## Mantissas -/

/-- Whether a text as a whole is a mantissa. -/
structure IsMantissa (text : List Char) : Prop where
  ne_nil : text ≠ []
  length : mantissaLength text = text.length

theorem mantissaLength_append {text rest : List Char} (hrest : Stops rest) :
    mantissaLength (text ++ rest) = mantissaLength text := by
  have hlength := digitRun_le text
  unfold mantissaLength
  simp only [digitRun_append_of_stops hrest, List.drop_append_of_le_length hlength]
  cases text.drop (digitRun text) with
  | nil =>
      rw [List.nil_append]
      split
      · exact absurd rfl (hrest '.' rfl).2
      · rfl
  | cons c others =>
      by_cases hpoint : c = '.'
      · subst hpoint
        simp only [List.cons_append, digitRun_append_of_stops hrest]
      · simp [hpoint]

theorem IsMantissa.numeric {mantissa : List Char} (h : IsMantissa mantissa) :
    IsNumeric mantissa := by
  intro c hc
  rw [← List.take_length (l := mantissa), ← h.length] at hc
  exact mem_take_mantissaLength hc

theorem plainNumber_of_digits {whole : List Char} (hne : whole ≠ [])
    (hdigits : ∀ c ∈ whole, isDigit c = true) : PlainNumber whole := by
  have hrun : digitRun whole = whole.length := by
    rw [digitRun, List.takeWhile_eq_self_iff.2 hdigits]
  have hlength : plainLength whole = whole.length := by
    simp [plainLength, hrun, hne]
  simp [PlainNumber, plain?, hlength, hne]

private theorem plainNumber_of_point {whole fraction : List Char} (hwhole : whole ≠ [])
    (hdigits : ∀ c ∈ whole, isDigit c = true) (hfraction : fraction ≠ [])
    (hdigits' : ∀ c ∈ fraction, isDigit c = true) : PlainNumber (whole ++ '.' :: fraction) := by
  have hrun : digitRun (whole ++ '.' :: fraction) = whole.length := by
    refine digitRun_append hdigits ?_
    rintro c ⟨⟩
    decide
  have hbehind : digitRun fraction = fraction.length := by
    rw [digitRun, List.takeWhile_eq_self_iff.2 hdigits']
  have hlength : plainLength (whole ++ '.' :: fraction) = (whole ++ '.' :: fraction).length := by
    simp only [plainLength, hrun, List.drop_left, hbehind, List.length_append, List.length_cons]
    rw [if_neg (by simpa using hwhole), if_neg (by simpa using hfraction)]
    omega
  simp [PlainNumber, plain?, hlength, hwhole]

/-- The texts of mantissas: digits, at least one, perhaps with a point among or around them. -/
inductive Mantissa : List Char → Prop
  | whole {digits : List Char} (ne : digits ≠ []) (all : ∀ c ∈ digits, isDigit c = true) :
      Mantissa digits
  | point {whole fraction : List Char} (ne : whole ++ fraction ≠ [])
      (all : ∀ c ∈ whole ++ fraction, isDigit c = true) : Mantissa (whole ++ '.' :: fraction)

theorem digitRun_le_mantissaLength (text : List Char) : digitRun text ≤ mantissaLength text := by
  unfold mantissaLength
  simp only
  split
  · split <;> omega
  · exact Nat.le_refl _

theorem length_le_digitRun_append {digits : List Char} (all : ∀ c ∈ digits, isDigit c = true)
    (rest : List Char) : digits.length ≤ digitRun (digits ++ rest) := by
  rw [digitRun, List.takeWhile_append_of_pos all, List.length_append]
  exact Nat.le_add_right _ _

/-- The scanner's mantissa is one. -/
theorem exists_mantissa {text : List Char} (hlength : mantissaLength text ≠ 0) :
    ∃ mantissa rest, text = mantissa ++ rest ∧ mantissa.length = mantissaLength text ∧
      Mantissa mantissa := by
  obtain ⟨whole, behind, rfl, hwhole, hrun⟩ : ∃ whole behind, text = whole ++ behind ∧
      (∀ c ∈ whole, isDigit c = true) ∧ digitRun text = whole.length :=
    ⟨text.takeWhile isDigit, text.dropWhile isDigit, List.takeWhile_append_dropWhile.symm,
      fun c hc => List.mem_takeWhile_imp hc, rfl⟩
  unfold mantissaLength at hlength ⊢
  simp only [hrun, List.drop_left] at hlength ⊢
  split at hlength
  · next after =>
      have hfraction : ∀ c ∈ after.takeWhile isDigit, isDigit c = true := fun c hc =>
        List.mem_takeWhile_imp hc
      split at hlength
      · exact absurd rfl hlength
      · next hsome =>
          have hne : whole ++ after.takeWhile isDigit ≠ [] := by
            intro hnil
            obtain ⟨hleft, hright⟩ := List.append_eq_nil_iff.1 hnil
            exact hsome ⟨by rw [hleft, List.length_nil], by rw [digitRun, hright, List.length_nil]⟩
          refine ⟨whole ++ '.' :: after.takeWhile isDigit, after.dropWhile isDigit, ?_, ?_,
            .point hne fun c hc => (List.mem_append.1 hc).elim (hwhole c) (hfraction c)⟩
          · rw [List.append_assoc, List.cons_append, List.takeWhile_append_dropWhile]
          · rw [if_neg hsome, List.length_append, List.length_cons, digitRun]
            omega
  · exact ⟨whole, behind, rfl, rfl, .whole (by simpa using hlength) hwhole⟩

theorem IsMantissa.mantissa {text : List Char} (h : IsMantissa text) : Mantissa text := by
  have hsome : mantissaLength text ≠ 0 := by
    rw [h.length]
    exact fun hzero => h.ne_nil (List.length_eq_zero_iff.1 hzero)
  obtain ⟨mantissa, rest, hsplit, hlength, his⟩ := exists_mantissa hsome
  have hrest : rest = [] := by
    have hsum := congrArg List.length hsplit
    rw [List.length_append, hlength, h.length] at hsum
    exact List.length_eq_zero_iff.1 (by omega)
  rwa [hsplit, hrest, List.append_nil]

/-- A mantissa that is no plain number starts with its point or ends in it. -/
theorem IsMantissa.cases {mantissa : List Char} (h : IsMantissa mantissa) :
    PlainNumber mantissa ∨ ∃ digits, digits ≠ [] ∧ (∀ c ∈ digits, isDigit c = true) ∧
      (mantissa = digits ++ ['.'] ∨ mantissa = '.' :: digits) := by
  cases h.mantissa with
  | whole ne all => exact .inl (plainNumber_of_digits ne all)
  | @point whole fraction ne all =>
      have hwhole : ∀ c ∈ whole, isDigit c = true := fun c hc => all c (List.mem_append_left _ hc)
      have hfraction : ∀ c ∈ fraction, isDigit c = true := fun c hc =>
        all c (List.mem_append_right _ hc)
      by_cases hleft : whole = []
      · subst hleft
        exact .inr ⟨fraction, ne, hfraction, .inr rfl⟩
      · by_cases hright : fraction = []
        · subst hright
          exact .inr ⟨whole, hleft, hwhole, .inl rfl⟩
        · exact .inl (plainNumber_of_point hleft hwhole hright hfraction)

/-! ## Exponents -/

/-- Whether a text as a whole is an exponent. -/
inductive IsExponent : List Char → Prop
  | of {mark : Char} {sign run : List Char} (mark_eq : mark = 'e' ∨ mark = 'E')
      (sign_eq : sign = [] ∨ sign = ['+'] ∨ sign = ['-']) (ne : run ≠ [])
      (digits : ∀ c ∈ run, isDigit c = true) : IsExponent (mark :: (sign ++ run))

theorem splitSign_of_digits {sign run : List Char} (hsign : sign = [] ∨ sign = ['+'] ∨ sign = ['-'])
    (hrun : ∀ c ∈ run.head?, c ≠ '+' ∧ c ≠ '-') : (splitSign (sign ++ run)).2 = run := by
  rcases hsign with rfl | rfl | rfl
  · rw [List.nil_append]
    unfold splitSign
    split
    · exact absurd rfl (hrun '-' rfl).2
    · exact absurd rfl (hrun '+' rfl).1
    · rfl
  · rfl
  · rfl

private theorem isExponent_of_exponentLength {text : List Char} (hne : text ≠ [])
    (h : exponentLength text = text.length) : IsExponent text := by
  rcases exponentLength_cases text with
    hnone | ⟨mark, sign, run, rest, htext, hlength, hmark, hsign, hrun, hdigits⟩
  · rw [hnone] at h
    exact absurd (List.length_eq_zero_iff.1 h.symm) hne
  · have hrest : rest = [] := by
      rw [hlength, htext, List.length_append] at h
      exact List.length_eq_zero_iff.1 (by omega)
    rw [htext, hrest, List.append_nil]
    exact .of hmark hsign hrun hdigits

private theorem exponentLength_append {exponent rest : List Char} (h : IsExponent exponent)
    (hrest : ∀ c ∈ rest.head?, isDigit c = false) :
    exponentLength (exponent ++ rest) = exponent.length := by
  cases h with
  | @of mark sign run hmark hsign hne hdigits =>
      have hhead : ∀ c ∈ (run ++ rest).head?, c ≠ '+' ∧ c ≠ '-' := by
        obtain ⟨d, others, rfl⟩ := List.exists_cons_of_ne_nil hne
        have hd := hdigits d List.mem_cons_self
        rintro c ⟨⟩
        refine ⟨?_, ?_⟩
        · rintro rfl
          exact absurd hd (by decide)
        · rintro rfl
          exact absurd hd (by decide)
      have hsplit := splitSign_of_digits hsign hhead
      have hlength : run.length ≠ 0 := by simpa using hne
      rw [List.cons_append, List.append_assoc, exponentLength, if_pos hmark]
      simp only [hsplit, digitRun_append hdigits hrest, if_neg hlength, List.length_append,
        List.length_cons]
      omega

/-! ## Numbers -/

/-- The shape of a number: a mantissa, and perhaps an exponent. -/
inductive Shape : List Char → Prop
  | mantissa {mantissa : List Char} (is : IsMantissa mantissa) : Shape mantissa
  | scientific {mantissa exponent : List Char} (is : IsMantissa mantissa)
      (has : IsExponent exponent) : Shape (mantissa ++ exponent)

theorem IsExponent.stops {exponent rest : List Char} (h : IsExponent exponent) :
    Stops (exponent ++ rest) := by
  cases h with
  | of hmark hsign hne hdigits =>
      rintro c ⟨⟩
      rcases hmark with rfl | rfl <;> exact ⟨by decide, by decide⟩

theorem shape_of_isNumber {text : List Char} (h : IsNumber text) : Shape text := by
  have hne : text ≠ [] := by
    rintro rfl
    exact absurd h (by decide)
  have hlength : text.length = numeralLength text := eq_numeralLength_of_leading? h
  rw [numeralLength] at hlength
  split_ifs at hlength with hnone
  · exact absurd (List.length_eq_zero_iff.1 hlength) hne
  have hexponent : exponentLength (text.drop (mantissaLength text)) =
      (text.drop (mantissaLength text)).length := by
    rw [List.length_drop]
    omega
  by_cases hnil : text.drop (mantissaLength text) = []
  · rw [hnil] at hlength
    exact .mantissa ⟨hne, hlength.symm⟩
  · have hhas := isExponent_of_exponentLength hnil hexponent
    have hsplit := List.take_append_drop (mantissaLength text) text
    have hmantissa : IsMantissa (text.take (mantissaLength text)) := by
      have hstops : Stops (text.drop (mantissaLength text)) := by
        have hnone : Stops (text.drop (mantissaLength text) ++ []) := hhas.stops
        rwa [List.append_nil] at hnone
      have hsame : mantissaLength (text.take (mantissaLength text)) = mantissaLength text := by
        rw [← mantissaLength_append hstops, hsplit]
      refine ⟨?_, ?_⟩
      · rw [ne_eq, List.take_eq_nil_iff]
        tauto
      · rw [hsame, List.length_take]
        omega
    rw [← hsplit]
    exact .scientific hmantissa hhas

theorem Shape.numeralLength_append {text rest : List Char} (h : Shape text) (hrest : Clear rest) :
    numeralLength (text ++ rest) = text.length := by
  cases h with
  | mantissa is =>
      have hlength : text.length ≠ 0 := by simpa using is.ne_nil
      simp [numeralLength, mantissaLength_append hrest.stops, is.length, hlength,
        exponentLength_of_clear hrest]
  | @scientific mantissa exponent is has =>
      have hlength : mantissa.length ≠ 0 := by simpa using is.ne_nil
      have hexponent := exponentLength_append has fun c hc => (hrest.stops c hc).1
      rw [List.append_assoc]
      simp [numeralLength, mantissaLength_append has.stops, is.length, hlength, hexponent]

theorem Shape.ne_nil {text : List Char} (h : Shape text) : text ≠ [] := by
  cases h with
  | mantissa is => exact is.ne_nil
  | scientific is has => exact List.append_ne_nil_of_left_ne_nil is.ne_nil _

/-- A number is found as a whole. -/
theorem Shape.leading?_append {text rest : List Char} (h : Shape text) (hrest : Clear rest) :
    leading? (text ++ rest) = some (.number, text.length) := by
  have hlength : text.length ≠ 0 := by simpa using h.ne_nil
  unfold leading?
  rw [h.numeralLength_append hrest, if_pos hlength]

/-- Only the mantissa is found where no exponent follows. -/
theorem leading?_mantissa {mantissa rest : List Char} (h : IsMantissa mantissa)
    (hstops : Stops rest) (hrest : exponentLength rest = 0) :
    leading? (mantissa ++ rest) = some (.number, mantissa.length) := by
  have hlength : mantissa.length ≠ 0 := by simpa using h.ne_nil
  have hnumeral : numeralLength (mantissa ++ rest) = mantissa.length := by
    simp [numeralLength, mantissaLength_append hstops, h.length, hlength, hrest]
  unfold leading?
  rw [hnumeral, if_pos hlength]

/-! ## The characters of a number -/

/-- Whether a text is made like the end of a number: no sign stands behind a digit or a point. -/
structure NumberLike (text : List Char) : Prop where
  mem : ∀ c ∈ text, isNumeral c = true
  signs : text.IsChain fun c d => d = '+' ∨ d = '-' → isDigit c = false ∧ c ≠ '.'

theorem NumberLike.tail {c : Char} {rest : List Char} (h : NumberLike (c :: rest)) :
    NumberLike rest :=
  ⟨fun d hd => h.mem d (List.mem_cons_of_mem c hd), h.signs.tail⟩

theorem isChain_of_forall {R : Char → Char → Prop} {text : List Char}
    (h : ∀ d ∈ text, ∀ c, R c d) : text.IsChain R := by
  induction text with
  | nil => exact .nil
  | cons c rest ih =>
      cases rest with
      | nil => exact .singleton c
      | cons d others =>
          exact .cons_cons (h d (by simp) c) (ih fun e he => h e (List.mem_cons_of_mem c he))

theorem not_sign_of_numeric {c : Char} (h : isDigit c = true ∨ c = '.') : c ≠ '+' ∧ c ≠ '-' := by
  rcases h with hdigit | rfl
  · refine ⟨?_, ?_⟩
    · rintro rfl
      exact absurd hdigit (by decide)
    · rintro rfl
      exact absurd hdigit (by decide)
  · decide

theorem numberLike_of_numeric {text : List Char} (h : IsNumeric text) : NumberLike text where
  mem c hc := by
    rcases h c hc with hdigit | rfl
    · simp [isNumeral, hdigit]
    · decide
  signs := isChain_of_forall fun d hd c hsign => by
    have := not_sign_of_numeric (h d hd)
    tauto

theorem IsExponent.numberLike {exponent : List Char} (h : IsExponent exponent) :
    NumberLike exponent := by
  cases h with
  | @of mark sign run hmark hsign hne hdigits =>
      have hrun : NumberLike run := numberLike_of_numeric fun c hc => .inl (hdigits c hc)
      have hmark' : isNumeral mark = true ∧ isDigit mark = false ∧ mark ≠ '.' := by
        rcases hmark with rfl | rfl <;> exact ⟨by decide, by decide, by decide⟩
      have hhead : ∀ c ∈ run.head?, c ≠ '+' ∧ c ≠ '-' := fun c hc =>
        not_sign_of_numeric (.inl (hdigits c (List.mem_of_head? hc)))
      have hplus : isNumeral '+' = true ∧ isNumeral '-' = true := by decide
      refine ⟨?_, ?_⟩
      · have hsigns : ∀ c ∈ sign, isNumeral c = true := by
          rcases hsign with rfl | rfl | rfl <;> simp [hplus]
        exact List.forall_mem_cons.2 ⟨hmark'.1, fun c hc =>
          (List.mem_append.1 hc).elim (hsigns c) (hrun.mem c)⟩
      · have hbehind : (sign ++ run).IsChain fun c d =>
            d = '+' ∨ d = '-' → isDigit c = false ∧ c ≠ '.' := by
          rcases hsign with rfl | rfl | rfl
          · exact hrun.signs
          · rw [List.singleton_append, List.isChain_cons]
            exact ⟨fun d hd hsign => absurd hsign (by have := hhead d hd; tauto), hrun.signs⟩
          · rw [List.singleton_append, List.isChain_cons]
            exact ⟨fun d hd hsign => absurd hsign (by have := hhead d hd; tauto), hrun.signs⟩
        rw [List.isChain_cons]
        exact ⟨fun d _ _ => hmark'.2, hbehind⟩

theorem Shape.numberLike {text : List Char} (h : Shape text) : NumberLike text := by
  cases h with
  | mantissa is => exact numberLike_of_numeric is.numeric
  | @scientific mantissa exponent is has =>
      have hmantissa := numberLike_of_numeric is.numeric
      have hexponent := has.numberLike
      refine ⟨fun c hc => (List.mem_append.1 hc).elim (hmantissa.mem c) (hexponent.mem c), ?_⟩
      rw [List.isChain_append]
      refine ⟨hmantissa.signs, hexponent.signs, fun c _ d hd hsign => ?_⟩
      cases has with
      | of hmark =>
          cases hd
          rcases hmark with rfl | rfl <;> exact absurd hsign (by decide)

theorem NumberLike.not_mem {text : List Char} (h : NumberLike text) {c : Char}
    (hc : isNumeral c = false) : c ∉ text := by
  intro hmem
  rw [h.mem c hmem] at hc
  cases hc

/-- Behind the plain number at the start of such a text stands neither a sign nor a blank. -/
theorem NumberLike.head_behind_plain {text number behindNumber : List Char} (h : NumberLike text)
    (hplain : plain? text = some (number, behindNumber)) :
    ∀ c ∈ behindNumber.head?, isBlank c = false ∧ c ≠ '+' ∧ c ≠ '-' ∧ c ≠ '%' := by
  obtain ⟨htext, hnumber, -⟩ := plain?_eq_some hplain
  obtain ⟨first, digits, hdigits, -⟩ := hnumber.digit
  obtain ⟨hmem, hsigns⟩ := h
  rw [htext] at hmem hsigns
  obtain ⟨-, -, hjoin⟩ := List.isChain_append.1 hsigns
  intro c hc
  have hnumeral : isNumeral c = true :=
    hmem c (List.mem_append_right _ (List.mem_of_head? hc))
  have hsign : ¬ (c = '+' ∨ c = '-') := by
    intro hsign
    have hlast := List.getLast?_eq_some_getLast (l := number) (by simp [hdigits])
    obtain ⟨hdigit, hpoint⟩ := hjoin _ hlast c hc hsign
    rcases hnumber.mem _ (List.mem_of_getLast? hlast) with h | h
    · rw [hdigit] at h
      cases h
    · exact hpoint h
  refine ⟨not_isBlank_of_isNumeral hnumeral, fun h => hsign (.inl h), fun h => hsign (.inr h), ?_⟩
  rintro rfl
  exact absurd hnumeral (by decide)

/-! ## The mark of an exponent -/

/-- An exponent moves the point of its mantissa. -/
theorem read_append {mantissa rest : List Char} (h : IsMantissa mantissa) (hrest : Stops rest) :
    Decimal.read (mantissa ++ rest) =
      ⟨(Decimal.read mantissa).coefficient,
        Decimal.readExponent rest + (Decimal.read mantissa).exponent⟩ := by
  have hwhole : (mantissa ++ rest).takeWhile isDigit = mantissa.takeWhile isDigit :=
    takeWhile_append_of_head fun c hc => (hrest c hc).1
  have hle := digitRun_le mantissa
  rw [digitRun] at hle
  unfold Decimal.read
  simp only [hwhole, mantissaLength_append hrest, h.length, List.drop_left,
    List.drop_append_of_le_length hle, List.drop_length]
  have hnone : Decimal.readExponent [] = 0 := rfl
  rw [hnone]
  cases mantissa.drop (mantissa.takeWhile isDigit).length with
  | nil =>
      rw [List.nil_append]
      split
      · exact absurd rfl (hrest '.' rfl).2
      · simp
  | cons c others =>
      by_cases hpoint : c = '.'
      · subst hpoint
        simp only [List.cons_append, takeWhile_append_of_head fun c hc => (hrest c hc).1,
          Int.sub_eq_add_neg, Int.zero_add]
      · simp [hpoint]

/-- Which of the two marks it is does not matter. -/
theorem read_mark {mantissa rest : List Char} {mark other : Char} (h : IsMantissa mantissa)
    (hmark : mark = 'e' ∨ mark = 'E') (hother : other = 'e' ∨ other = 'E') :
    Decimal.read (mantissa ++ mark :: rest) = Decimal.read (mantissa ++ other :: rest) := by
  have hstops : ∀ {c : Char}, c = 'e' ∨ c = 'E' → Stops (c :: rest) := by
    rintro c hc d ⟨⟩
    rcases hc with rfl | rfl <;> exact ⟨by decide, by decide⟩
  rw [read_append h (hstops hmark), read_append h (hstops hother)]
  rfl

end DeskCalculator.Token
