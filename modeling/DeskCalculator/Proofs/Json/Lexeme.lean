import DeskCalculator.Json.Reader
import DeskCalculator.Json.Writer
import DeskCalculator.Proofs.Decimal.Numeral
import DeskCalculator.Proofs.Result.Display

/-!
# Values without parts, written and read

Each string, number and word that is written is found again as one lexeme
(`lexeme?_writeText`, `lexeme?_number`), provided that what follows a number cannot go
on with it.  Where a value is due, its lexeme gives that value (`gives_text`,
`gives_integer`, `gives_real`).
-/

namespace DeskCalculator.Json

open Text

/-! ## Strings -/

theorem hexCode?_hexadecimal {code : ℕ} (h : code < 0x20) (rest : List Char) :
    hexCode? (hexadecimal 4 code ++ rest) = some code ∧ (hexadecimal 4 code).length = 4 := by
  have hall : ∀ code < 0x20, hexCode? (hexadecimal 4 code) = some code ∧
      (hexadecimal 4 code).length = 4 := by decide
  obtain ⟨hcode, hlength⟩ := hall code h
  refine ⟨?_, hlength⟩
  match hdigits : hexadecimal 4 code, hlength with
  | [a, b, c, d], _ =>
      rw [hdigits] at hcode
      exact hcode

section

variable [Platform]

/-- A control that is written by its code is read back. -/
theorem escape?_hexadecimal {c : Char} (h : c.toNat < 0x20) (rest : List Char) :
    escape? ('u' :: (hexadecimal 4 c.toNat ++ rest)) = some (c, 5) := by
  obtain ⟨hcode, hlength⟩ := hexCode?_hexadecimal h rest
  have hhigh : isHigh c.toNat = false := by
    simp only [isHigh, Bool.and_eq_false_imp, decide_eq_true_eq]
    omega
  have hlow : isLow c.toNat = false := by
    simp only [isLow, Bool.and_eq_false_imp, decide_eq_true_eq]
    omega
  have hmeant : characterOf c.toNat = c := by
    rw [characterOf, hhigh, hlow, Bool.or_false, if_neg Bool.false_ne_true, Char.ofNat_toNat]
  unfold escape?
  simp only [hcode, hhigh, hmeant, Option.bind_eq_bind, Option.bind_some, Bool.false_eq_true,
    if_false]
  split <;> rfl

private theorem stringBody?_plain {c : Char} {rest value : List Char} {taken : ℕ} (hquote : c ≠ '"')
    (hbackslash : c ≠ '\\') (hcontrol : ¬ c.toNat < 0x20)
    (h : stringBody? rest = some (value, taken)) :
    stringBody? (c :: rest) = some (c :: value, 1 + taken) := by
  rw [stringBody?, if_neg hquote, if_neg hbackslash, if_neg hcontrol, h]
  rfl

private theorem stringBody?_escape {c : Char} {escape rest value : List Char} {taken : ℕ}
    (hescape : escape? (escape ++ rest) = some (c, escape.length))
    (h : stringBody? rest = some (value, taken)) :
    stringBody? ('\\' :: (escape ++ rest)) = some (c :: value, 1 + escape.length + taken) := by
  have hquote : ¬ '\\' = '"' := by decide
  rw [stringBody?, if_neg hquote, if_pos rfl, hescape]
  simp only [List.drop_left, h]
  rfl

/-- A character of a string is read back from what is written for it. -/
theorem stringBody?_escaped (c : Char) {rest value : List Char} {taken : ℕ}
    (h : stringBody? rest = some (value, taken)) :
    stringBody? (escaped c ++ rest) = some (c :: value, (escaped c).length + taken) := by
  unfold escaped
  split_ifs with hmark hfeed hreturn htab hback hform hcontrol
  · have hescape : escape? ([c] ++ rest) = some (c, [c].length) := by
      rcases hmark with rfl | rfl <;> rfl
    exact stringBody?_escape hescape h
  · subst hfeed
    exact @stringBody?_escape _ _ ['n'] _ _ _ rfl h
  · subst hreturn
    exact @stringBody?_escape _ _ ['r'] _ _ _ rfl h
  · subst htab
    exact @stringBody?_escape _ _ ['t'] _ _ _ rfl h
  · have hc : c = Char.ofNat 0x8 := by rw [← hback, Char.ofNat_toNat]
    subst hc
    exact @stringBody?_escape _ _ ['b'] _ _ _ rfl h
  · have hc : c = Char.ofNat 0xC := by rw [← hform, Char.ofNat_toNat]
    subst hc
    exact @stringBody?_escape _ _ ['f'] _ _ _ rfl h
  · have hlength := (hexCode?_hexadecimal hcontrol []).2
    have hescape : escape? (('u' :: hexadecimal 4 c.toNat) ++ rest) =
        some (c, ('u' :: hexadecimal 4 c.toNat).length) := by
      rw [List.length_cons, hlength]
      exact escape?_hexadecimal hcontrol rest
    have hbody := stringBody?_escape hescape h
    rw [Nat.add_comm 1] at hbody
    exact hbody
  · rw [not_or] at hmark
    exact stringBody?_plain hmark.1 hmark.2 hcontrol h

private theorem stringBody?_flatMap (value rest : List Char) :
    stringBody? (value.flatMap escaped ++ '"' :: rest) =
      some (value, (value.flatMap escaped).length + 1) := by
  induction value with
  | nil =>
      rw [List.flatMap_nil, List.nil_append, stringBody?, if_pos rfl]
      rfl
  | cons c others ih =>
      rw [List.flatMap_cons, List.append_assoc, stringBody?_escaped c ih, List.length_append,
        Nat.add_assoc]

theorem lexeme?_writeText (value : String) (rest : List Char) :
    lexeme? (writeText value ++ rest) = some (.text value, (writeText value).length) := by
  have hbody := stringBody?_flatMap value.toList rest
  unfold writeText lexeme?
  simp only [List.cons_append, List.append_assoc, List.nil_append, List.length_cons,
    List.length_append, hbody]
  simp
  omega

end

/-! ## Numbers -/

/-- Whether a text is empty or starts with a character that ends a number. -/
def Delimits (rest : List Char) : Prop := ∀ c ∈ rest.head?, isNumeric c = false ∧ c ≠ 'E'

theorem Delimits.not_isDigit {rest : List Char} (h : Delimits rest) :
    ∀ c ∈ rest.head?, c.isDigit = false := by
  intro c hc
  have hnumeric := (h c hc).1
  rw [isNumeric, Bool.or_eq_false_iff] at hnumeric
  exact hnumeric.1

private theorem powerLength_of_delimits {rest : List Char} (h : Delimits rest) :
    powerLength rest = 0 := by
  cases rest with
  | nil => rfl
  | cons c others =>
      obtain ⟨hnumeric, hlarge⟩ := h c rfl
      have hsmall : c ≠ 'e' := by
        rintro rfl
        cases hnumeric
      simp [powerLength, hsmall, hlarge]

private theorem powerLength_chars (p : Power) {rest : List Char} (h : Delimits rest) :
    powerLength (p.chars ++ rest) = p.chars.length := by
  have hsplit : splitSign (p.sign :: (p.digits ++ rest)) = (p.negative, p.digits ++ rest) := by
    unfold Power.sign
    cases p.negative <;> rfl
  have hrun : (p.digits ++ rest).takeWhile Char.isDigit = p.digits :=
    Entry.takeWhile_append_of_stop p.isDigit_digits h.not_isDigit
  have hne : p.digits.length ≠ 0 := by simpa using p.digits_ne_nil
  unfold Power.chars powerLength
  simp only [List.cons_append, hsplit, hrun, hne, if_true, if_false, true_or, List.length_cons,
    List.length_append]
  omega

private theorem wholeLength_append {whole rest : List Char} (hwhole : ∀ c ∈ whole, c.isDigit = true)
    (hne : whole ≠ []) (hleading : whole = ['0'] ∨ whole.head? ≠ some '0')
    (hrest : ∀ c ∈ rest.head?, c.isDigit = false) :
    wholeLength (whole ++ rest) = whole.length := by
  rcases hleading with rfl | hhead
  · rfl
  · obtain ⟨c, others, rfl⟩ := List.exists_cons_of_ne_nil hne
    have hc : c ≠ '0' := by simpa using hhead
    rw [List.cons_append, wholeLength]
    · rw [← List.cons_append, Entry.takeWhile_append_of_stop hwhole hrest]
    · simpa using hc

/-- Neither a digit nor a point stands where the exponent begins or the number ends. -/
theorem head_power (power : Option Power) {rest : List Char} (h : Delimits rest) :
    ∀ c ∈ (power.elim [] Power.chars ++ rest).head?, c.isDigit = false ∧ c ≠ '.' := by
  cases power with
  | none =>
      intro c hc
      refine ⟨h.not_isDigit c hc, ?_⟩
      rintro rfl
      cases (h '.' hc).1
  | some p =>
      intro c hc
      cases hc
      exact ⟨rfl, by decide⟩

/-- The point is there only if digits follow it. -/
theorem pointLength_append {fraction rest : List Char} (hfraction : ∀ c ∈ fraction, c.isDigit = true)
    (hrest : ∀ c ∈ rest.head?, c.isDigit = false ∧ c ≠ '.') :
    pointLength ((if fraction = [] then [] else '.' :: fraction) ++ rest) =
      (if fraction = [] then [] else '.' :: fraction).length := by
  split_ifs with hnil
  · rw [List.nil_append]
    unfold pointLength
    split
    · exact absurd rfl (hrest '.' rfl).2
    · rfl
  · have hrun : (fraction ++ rest).takeWhile Char.isDigit = fraction :=
      Entry.takeWhile_append_of_stop hfraction fun c hc => (hrest c hc).1
    have hcount : fraction.length ≠ 0 := by simpa using hnil
    rw [List.cons_append, pointLength, hrun, if_neg hcount, List.length_cons, Nat.add_comm]

/-- A number without superfluous zeros is measured as a whole. -/
theorem numberLength_chars (n : Numeral)
    (hleading : n.mantissa.whole = ['0'] ∨ n.mantissa.whole.head? ≠ some '0') {rest : List Char}
    (h : Delimits rest) : numberLength (n.chars ++ rest) = n.chars.length := by
  obtain ⟨⟨whole, fraction, hne, hwhole, hfraction⟩, power⟩ := n
  have hpower : powerLength (power.elim [] Power.chars ++ rest) =
      (power.elim [] Power.chars).length := by
    cases power with
    | none => exact powerLength_of_delimits h
    | some p => exact powerLength_chars p h
  have hbehind := head_power power h
  have hpoint := pointLength_append hfraction hbehind
  have hmeasure : wholeLength (whole ++ ((if fraction = [] then [] else '.' :: fraction) ++
      (power.elim [] Power.chars ++ rest))) = whole.length := by
    refine wholeLength_append hwhole hne hleading fun c hc => ?_
    split_ifs at hc
    · exact (hbehind c hc).1
    · cases hc
      rfl
  have hlength : whole.length ≠ 0 := by simpa using hne
  unfold Numeral.chars Surface.Literal.chars numberLength
  simp only [List.append_assoc, hmeasure, if_neg hlength, List.drop_left, hpoint,
    List.drop_length_add_append, hpower, List.length_append, Nat.add_assoc]

theorem head_numeral (n : Numeral) : ∃ c rest, n.chars = c :: rest ∧ c.isDigit = true := by
  obtain ⟨c, others, hwhole⟩ := List.exists_cons_of_ne_nil n.mantissa.whole_ne_nil
  exact ⟨c, _, by rw [Numeral.chars, Surface.Literal.chars, hwhole, List.cons_append,
    List.cons_append], n.mantissa.isDigit_whole c (by simp [hwhole])⟩

theorem splitSign_chars (n : SignedNumeral) : splitSign n.chars = (n.negative, n.numeral.chars) := by
  obtain ⟨c, rest, hchars, hdigit⟩ := head_numeral n.numeral
  unfold SignedNumeral.chars SignedNumeral.minus
  cases n.negative with
  | true => rfl
  | false =>
      rw [if_neg Bool.false_ne_true, List.nil_append, hchars]
      unfold splitSign
      split
      · next heq =>
          cases heq
          cases hdigit
      · next heq =>
          cases heq
          cases hdigit
      · rfl

/-- A character with which only a number starts. -/
theorem lexeme?_of_numberLength [Platform] {sign : ℕ} {c : Char} {rest : List Char}
    (hmark : c ∉ ['[', ']', '{', '}', ',', ':']) (hquote : c ≠ '"')
    (hsign : (if c = '-' then 1 else 0) = sign) (hlength : numberLength ((c :: rest).drop sign) ≠ 0) :
    lexeme? (c :: rest) = some
      (.number ((c :: rest).take (sign + numberLength ((c :: rest).drop sign))),
        sign + numberLength ((c :: rest).drop sign)) := by
  simp only [lexeme?, hmark, hquote, hsign, if_false]
  rw [if_pos hlength]

/-- A number without superfluous zeros is one lexeme. -/
theorem lexeme?_number [Platform] (n : SignedNumeral)
    (hleading : n.numeral.mantissa.whole = ['0'] ∨ n.numeral.mantissa.whole.head? ≠ some '0')
    {rest : List Char} (h : Delimits rest) :
    lexeme? (n.chars ++ rest) = some (.number n.chars, n.chars.length) := by
  obtain ⟨c, others, hchars, hdigit⟩ := head_numeral n.numeral
  have hnumber := numberLength_chars n.numeral hleading h
  have hne : n.numeral.chars.length ≠ 0 := by simpa using n.numeral.chars_ne_nil
  unfold SignedNumeral.chars SignedNumeral.minus
  cases n.negative with
  | true =>
      have hdrop : ('-' :: (n.numeral.chars ++ rest)).drop 1 = n.numeral.chars ++ rest := rfl
      have hlexeme := @lexeme?_of_numberLength _ 1 '-' (n.numeral.chars ++ rest) (by decide)
        (by decide) (if_pos rfl) (by rwa [hdrop, hnumber])
      rw [hdrop, hnumber, Nat.add_comm, List.take_succ_cons, List.take_left] at hlexeme
      exact hlexeme
  | false =>
      -- the first digit is nothing else that a lexeme may start with
      have hmark : c ∉ ['[', ']', '{', '}', ',', ':'] := by
        intro hc
        simp only [List.mem_cons, List.not_mem_nil, or_false] at hc
        rcases hc with rfl | rfl | rfl | rfl | rfl | rfl <;> cases hdigit
      have hquote : c ≠ '"' := by
        rintro rfl
        cases hdigit
      have hminus : c ≠ '-' := by
        rintro rfl
        cases hdigit
      rw [hchars] at hnumber hne
      rw [if_neg Bool.false_ne_true, List.nil_append, hchars]
      have hlexeme := @lexeme?_of_numberLength _ 0 c (others ++ rest) hmark hquote (if_neg hminus)
        (by rwa [List.drop_zero, ← List.cons_append, hnumber])
      rw [List.drop_zero, ← List.cons_append, hnumber, Nat.zero_add, List.take_left] at hlexeme
      exact hlexeme

/-! ## Values -/

/-- Whether some characters, before whatever ends a number, are one lexeme that gives a value where
one is due. -/
def Gives [Platform] (chars : List Char) (v : Json) : Prop :=
  ∀ rest, Delimits rest → ∃ lexeme, lexeme? (chars ++ rest) = some (lexeme, chars.length) ∧
    ∀ limit opened, takeValue limit opened lexeme = .ok ⟨opened, .after v⟩

theorem gives_text [Platform] (value : String) : Gives (writeText value) (.text value) :=
  fun rest _ => ⟨_, lexeme?_writeText value rest, fun _ _ => rfl⟩

theorem gives_number [Platform] {n : SignedNumeral} {v : Json}
    (hleading : n.numeral.mantissa.whole = ['0'] ∨ n.numeral.mantissa.whole.head? ≠ some '0')
    (hvalue : numberValue n.chars = .ok v) : Gives n.chars v := by
  intro rest hrest
  refine ⟨_, lexeme?_number n hleading hrest, fun limit opened => ?_⟩
  rw [takeValue, hvalue]
  rfl

/-- A number with a point or an exponent is no whole number. -/
theorem numberValue_real {n : SignedNumeral}
    (h : n.numeral.mantissa.fraction ≠ [] ∨ n.numeral.power ≠ none) :
    numberValue n.chars = .ok (.real n.value) := by
  have hdigits : n.numeral.chars.all Char.isDigit = false := by
    rw [List.all_eq_false]
    rcases h with h | h
    · exact ⟨'.', by simp [Numeral.chars, Surface.Literal.chars, h], by decide⟩
    · obtain ⟨p, hp⟩ := Option.ne_none_iff_exists'.1 h
      exact ⟨'e', by simp [Numeral.chars, hp, Power.chars], by decide⟩
  unfold numberValue
  rw [splitSign_chars]
  simp only [hdigits, Bool.false_eq_true, if_false, n.numeral.read_chars]
  rfl

theorem isDigit_of_mem_nil : ∀ c ∈ ([] : List Char), c.isDigit = true :=
  List.forall_mem_nil _

/-- The numeral of a whole number. -/
def integerNumeral (value : ℤ) : SignedNumeral where
  negative := decide (value < 0)
  numeral.mantissa.whole := Nat.toDigits 10 value.natAbs
  numeral.mantissa.fraction := []
  numeral.mantissa.whole_ne_nil := Nat.toDigits_ne_nil
  numeral.mantissa.isDigit_whole _ := Nat.isDigit_of_mem_toDigits (by decide) (le_refl 10)
  numeral.mantissa.isDigit_fraction := isDigit_of_mem_nil
  numeral.power := none

private theorem toList_toString_int (value : ℤ) :
    (toString value).toList = (integerNumeral value).chars := by
  unfold SignedNumeral.chars SignedNumeral.minus integerNumeral Numeral.chars Surface.Literal.chars
  cases value with
  | ofNat n =>
      show (Nat.repr n).toList = _
      simp [Nat.repr_eq_ofList_toDigits]
  | negSucc n =>
      show ("-" ++ Nat.repr (n + 1)).toList = _
      simp [Nat.repr_eq_ofList_toDigits, Int.negSucc_lt_zero]

private theorem leading_toDigits (n : ℕ) :
    Nat.toDigits 10 n = ['0'] ∨ (Nat.toDigits 10 n).head? ≠ some '0' := by
  rcases Nat.eq_zero_or_pos n with rfl | hpos
  · exact .inl rfl
  · exact .inr (Layout.head?_toDigits_ne hpos)

/-- A whole number is read back unless it is too long to be read at all. -/
theorem gives_integer [Platform] {value : ℤ} (h : value.natAbs < 10 ^ numeralLimit) :
    Gives (toString value).toList (.integer value) := by
  rw [toList_toString_int]
  refine gives_number (leading_toDigits _) ?_
  have hchars : (integerNumeral value).numeral.chars = Nat.toDigits 10 value.natAbs := by
    simp [integerNumeral, Numeral.chars, Surface.Literal.chars]
  have hall : (Nat.toDigits 10 value.natAbs).all Char.isDigit = true :=
    List.all_eq_true.2 fun c => Nat.isDigit_of_mem_toDigits (by decide) (le_refl 10)
  have hlength : ¬ numeralLimit < (Nat.toDigits 10 value.natAbs).length := by
    rw [not_lt, Nat.length_toDigits_le_iff (by decide) (by decide)]
    exact h
  unfold numberValue
  rw [splitSign_chars]
  simp only [hchars, hall, if_true, hlength, if_false, digitsValue_toDigits]
  congr 2
  simp only [integerNumeral, decide_eq_true_eq]
  split_ifs <;> omega

/-! ## Words -/

section

variable [Platform]

theorem gives_null : Gives "null".toList .null :=
  fun _ _ => ⟨.word .null, rfl, fun _ _ => rfl⟩

theorem gives_bool (value : Bool) : Gives (writeAtom (.bool value)) (.bool value) := by
  cases value with
  | true => exact fun _ _ => ⟨.word (.bool true), rfl, fun _ _ => rfl⟩
  | false => exact fun _ _ => ⟨.word (.bool false), rfl, fun _ _ => rfl⟩

/-- A float is read back, whatever its kind. -/
theorem gives_real (v : Float) : Gives (Layout.json.write v).toList (.real v) := by
  by_cases hnan : v.isNaN = true
  · rw [Binary.eq_of_isNaN hnan]
    exact fun _ _ => ⟨.word (.real (0.0 / 0.0)), rfl, fun _ _ => rfl⟩
  by_cases hinf : v.isInf = true
  · rcases Binary.eq_of_isInf hinf with rfl | rfl
    · exact fun _ _ => ⟨.word (.real (1.0 / 0.0)), rfl, fun _ _ => rfl⟩
    · exact fun _ _ => ⟨.word (.real (-1.0 / 0.0)), rfl, fun _ _ => rfl⟩
  have hfinite : v.isFinite = true :=
    Binary.isFinite_of_kind (Bool.eq_false_iff.2 hnan) (Bool.eq_false_iff.2 hinf)
  rcases Nat.eq_zero_or_pos (significand v) with hzero | hpos
  · -- a zero has a text of its own, with the sign in it
    let zero : SignedNumeral := ⟨signBit v, ⟨⟨['0'], ['0'], by simp, by simp, by simp⟩, none⟩⟩
    have htext : (Layout.json.write v).toList = zero.chars := by
      have hbeq : (v == 0) = true := (Binary.beq_zero_iff hfinite).2 hzero
      unfold Layout.write
      simp only [hnan, hinf, hbeq, Bool.false_eq_true, if_false, if_true]
      show (if signBit v then "-0.0" else "0.0").toList = (if signBit v then ['-'] else []) ++ _
      cases signBit v <;> rfl
    have hvalue : zero.value = v := by
      have hcoefficient : zero.numeral.decimal.coefficient = 0 := rfl
      have habs := Binary.abs_eq_zero hfinite hzero
      rw [SignedNumeral.value, Decimal.toFloat_zero hcoefficient, ← habs, Binary.withSign_abs hfinite]
    rw [htext, ← hvalue]
    exact gives_number (.inl rfl) (numberValue_real (.inl (by simp [zero])))
  · obtain ⟨n, htext, hvalue, -, hleading, hfractional⟩ :=
      @Layout.exists_numeral_of_write Layout.json v hfinite hpos (.inr rfl)
    rw [htext, ← hvalue]
    exact gives_number hleading (numberValue_real (hfractional (by decide)))

end

end DeskCalculator.Json
