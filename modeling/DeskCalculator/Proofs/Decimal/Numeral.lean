import DeskCalculator.Decimal.Layout
import DeskCalculator.Proofs.Decimal.Value
import DeskCalculator.Proofs.Surface.Scanning

/-!
# Numerals that floats are written with

A float is written by a plain literal, perhaps with an exponent behind it.  Such a
`Numeral` is read to its end, as the decimal that its parts suggest
(`numeralLength_chars`, `read_chars`).  Both ways to lay out the digits of a decimal
give a numeral that stands for the same number (`Layout.writes_magnitude`).
-/

namespace DeskCalculator

open Text Surface

/-! ## Digits -/

theorem Text.digitValue?_of_core {c : Char} (h : c.isDigit = true) :
    digitValue? c = some (c.toNat - '0'.toNat) := by
  obtain ⟨hlow, hhigh⟩ := Entry.toNat_of_isDigit.1 h
  have hfirst : (decide ('0'.toNat ≤ c.toNat) && decide (c.toNat < '0'.toNat + 10)) = true := by
    simp only [Bool.and_eq_true, decide_eq_true_eq, Char.reduceToNat]
    omega
  have hzeros : digitZeros = '0'.toNat :: digitZeros.tail := rfl
  rw [digitValue?, hzeros, List.find?_cons, hfirst]
  rfl

/-- ASCII digits have their usual value. -/
theorem Text.digitsValue_eq {digits : List Char} (h : ∀ c ∈ digits, c.isDigit = true) :
    digitsValue digits = Nat.ofDigitChars 10 digits 0 := by
  rw [digitsValue, Nat.ofDigitChars_eq_foldl]
  refine List.foldl_ext _ _ _ fun value c hc => ?_
  rw [digitValue?_of_core (h c hc), Option.elim_some]

theorem Text.digitsValue_append {first second : List Char}
    (hfirst : ∀ c ∈ first, c.isDigit = true) (hsecond : ∀ c ∈ second, c.isDigit = true) :
    digitsValue (first ++ second) =
      Nat.ofDigitChars 10 second (digitsValue first) := by
  have hall : ∀ c ∈ first ++ second, c.isDigit = true := fun c hc =>
    (List.mem_append.1 hc).elim (hfirst c) (hsecond c)
  rw [digitsValue_eq hall, digitsValue_eq hfirst, Nat.ofDigitChars_append]

theorem Text.digitsValue_toDigits (n : ℕ) : digitsValue (Nat.toDigits 10 n) = n := by
  have hdigits : ∀ c ∈ Nat.toDigits 10 n, c.isDigit = true := fun c =>
    Nat.isDigit_of_mem_toDigits (by decide) (le_refl 10)
  rw [digitsValue_eq hdigits, Nat.ofDigitChars_ten_toDigits]

/-! ## Numerals -/

/-- The exponent of a number, with its sign. -/
structure Power where
  /-- Whether the sign is a minus. -/
  negative : Bool
  digits : List Char
  digits_ne_nil : digits ≠ []
  isDigit_digits : ∀ c ∈ digits, c.isDigit = true

/-- The sign of an exponent. -/
def Power.sign (p : Power) : Char := if p.negative then '-' else '+'

/-- The characters of an exponent. -/
def Power.chars (p : Power) : List Char := 'e' :: p.sign :: p.digits

/-- The exponent as a number. -/
def Power.value (p : Power) : ℤ :=
  if p.negative then -(digitsValue p.digits : ℤ) else digitsValue p.digits

/-- A plain literal, perhaps with an exponent. -/
structure Numeral where
  mantissa : Literal
  power : Option Power

namespace Numeral

/-- The characters of a numeral. -/
def chars (n : Numeral) : List Char := n.mantissa.chars ++ n.power.elim [] Power.chars

/-- The decimal that a numeral denotes. -/
def decimal (n : Numeral) : Decimal :=
  ⟨digitsValue (n.mantissa.whole ++ n.mantissa.fraction),
    n.power.elim 0 Power.value - n.mantissa.fraction.length⟩

theorem chars_ne_nil (n : Numeral) : n.chars ≠ [] :=
  List.append_ne_nil_of_left_ne_nil n.mantissa.chars_ne_nil _

theorem splitSign_power (p : Power) : splitSign (p.sign :: p.digits) = (p.negative, p.digits) := by
  unfold Power.sign
  cases p.negative <;> rfl

theorem stops_power (p : Option Power) : Stops (p.elim [] Power.chars) := by
  cases p with
  | none => intro c hc; cases hc
  | some p =>
      intro c hc
      cases hc
      decide

private theorem digitRun_power (p : Power) : digitRun p.digits = p.digits.length := by
  have hrun := @digitRun_append p.digits []
    (fun c hc => Entry.isDigit_of_core (p.isDigit_digits c hc)) nofun
  rwa [List.append_nil] at hrun

private theorem exponentLength_power (p : Power) : exponentLength p.chars = p.chars.length := by
  have hne : p.digits.length ≠ 0 := by simpa using p.digits_ne_nil
  unfold Power.chars exponentLength
  simp only [splitSign_power, digitRun_power, hne, if_true, if_false, true_or,
    List.length_cons]
  omega

theorem mantissaLength_chars (n : Numeral) : mantissaLength n.chars = n.mantissa.chars.length :=
  mantissaLength_literal n.mantissa (stops_power n.power)

theorem drop_mantissa (n : Numeral) :
    n.chars.drop n.mantissa.chars.length = n.power.elim [] Power.chars :=
  List.drop_left

/-- A numeral is read to its end. -/
theorem numeralLength_chars (n : Numeral) : numeralLength n.chars = n.chars.length := by
  have hne : n.mantissa.chars.length ≠ 0 := by simpa using n.mantissa.chars_ne_nil
  have hbehind : exponentLength (n.power.elim [] Power.chars) =
      (n.power.elim [] Power.chars).length := by
    cases n.power with
    | none => rfl
    | some p => exact exponentLength_power p
  rw [numeralLength, mantissaLength_chars, if_neg hne, drop_mantissa, hbehind, chars,
    List.length_append]

/-- A numeral is read as the decimal that its parts suggest. -/
theorem read_chars (n : Numeral) : Decimal.read n.chars = n.decimal := by
  have hpoint : isDigit '.' = false := by decide
  have hstop : ∀ c ∈ (n.power.elim [] Power.chars).head?, isDigit c = false := fun c hc =>
    (stops_power n.power c hc).1
  have hfraction : (n.mantissa.fraction ++ n.power.elim [] Power.chars).takeWhile isDigit =
      n.mantissa.fraction :=
    Entry.takeWhile_append_of_stop (fun c => n.mantissa.isDigit_of_mem_fraction) hstop
  have hexponent : Decimal.readExponent (n.power.elim [] Power.chars) =
      n.power.elim 0 Power.value := by
    cases n.power with
    | none => rfl
    | some p =>
        show Decimal.readExponent p.chars = p.value
        rw [Power.chars, Decimal.readExponent, splitSign_power]
        rfl
  unfold Decimal.read
  simp only [mantissaLength_chars, drop_mantissa, hexponent]
  unfold chars Literal.chars decimal
  -- the point is there only if digits follow it
  by_cases hnil : n.mantissa.fraction = []
  · have hwhole : (n.mantissa.whole ++ n.power.elim [] Power.chars).takeWhile isDigit =
        n.mantissa.whole :=
      Entry.takeWhile_append_of_stop (fun c => n.mantissa.isDigit_of_mem_whole) hstop
    simp only [hnil, if_true, List.append_nil, hwhole, List.drop_left]
    cases hpower : n.power with
    | none => simp
    | some p => simp [Power.chars]
  · have hwhole : (n.mantissa.whole ++ '.' :: (n.mantissa.fraction ++
        n.power.elim [] Power.chars)).takeWhile isDigit = n.mantissa.whole :=
      Entry.takeWhile_append_of_stop (fun c => n.mantissa.isDigit_of_mem_whole) (by simp [hpoint])
    simp only [if_neg hnil, List.append_assoc, List.cons_append, hwhole, List.drop_left, hfraction]

end Numeral

/-- A numeral behind at most a minus. -/
structure SignedNumeral where
  /-- Whether there is a minus. -/
  negative : Bool
  numeral : Numeral

/-- The minus, if there is one. -/
def SignedNumeral.minus (n : SignedNumeral) : List Char := if n.negative then ['-'] else []

/-- The characters of a signed numeral. -/
def SignedNumeral.chars (n : SignedNumeral) : List Char := n.minus ++ n.numeral.chars

/-- The float that a signed numeral denotes. -/
def SignedNumeral.value (n : SignedNumeral) : Float :=
  withSign n.negative n.numeral.decimal.toFloat

/-! ## Layouts -/

namespace Layout

variable {layout : Layout} {d : Decimal}

theorem isDigit_of_mem_zeros {count : ℤ} {c : Char} (hc : c ∈ zeros count) : c.isDigit = true := by
  rw [List.eq_of_mem_replicate hc]
  decide

private theorem isDigit_of_mem_digits {c : Char} (hc : c ∈ d.digits) : c.isDigit = true :=
  Nat.isDigit_of_mem_toDigits (by decide) (le_refl 10) hc

/-- The first digit of a positive number is not zero. -/
theorem head?_toDigits_ne {n : ℕ} (hpos : 0 < n) : (Nat.toDigits 10 n).head? ≠ some '0' := by
  induction n using Nat.strong_induction_on with
  | _ n ih =>
      rw [Nat.toDigits_eq_if (by decide)]
      split_ifs with hsmall
      · have hall : ∀ digit < 10, 0 < digit → [digit.digitChar].head? ≠ some '0' := by decide
        exact hall n hsmall hpos
      · -- the first digit of a longer number is that of its tenth
        rw [List.head?_append_of_ne_nil _ Nat.toDigits_ne_nil]
        exact ih (n / 10) (by omega) (by omega)

/-- Whether a numeral is one that a layout writes: it has no more leading zeros than it needs, and
it has a point or an exponent if whole numbers get one. -/
structure Tidy (layout : Layout) (n : Numeral) : Prop where
  leading : n.mantissa.whole = ['0'] ∨ n.mantissa.whole.head? ≠ some '0'
  fractional : layout.wholeTail ≠ "" → n.mantissa.fraction ≠ [] ∨ n.power ≠ none

/-- Whether a text is a numeral of the layout that stands for the same number as a decimal. -/
def Writes (layout : Layout) (text : List Char) (d : Decimal) : Prop :=
  ∃ n : Numeral, text = n.chars ∧ n.decimal.value = d.value ∧ layout.Tidy n

/-- A decimal by its digits and the place of its point. -/
theorem value_eq_digits (d : Decimal) :
    d.value = digitsValue d.digits * 10 ^ (d.pointPosition - d.digits.length) := by
  rw [Decimal.digits, digitsValue_toDigits, Decimal.value, Decimal.pointPosition, Decimal.digits]
  congr 2
  omega

theorem digitsValue_zeros_append (count : ℤ) {digits : List Char}
    (hdigits : ∀ c ∈ digits, c.isDigit = true) :
    digitsValue (zeros count ++ digits) = digitsValue digits := by
  rw [digitsValue_append (fun c => isDigit_of_mem_zeros) hdigits,
    digitsValue_eq fun c => isDigit_of_mem_zeros, zeros, Nat.ofDigitChars_replicate_zero,
    digitsValue_eq hdigits, Nat.mul_zero]

private theorem digitsValue_append_zeros {digits : List Char}
    (hdigits : ∀ c ∈ digits, c.isDigit = true) (count : ℤ) :
    digitsValue (digits ++ zeros count) = 10 ^ count.toNat * digitsValue digits := by
  rw [digitsValue_append hdigits (fun c => isDigit_of_mem_zeros), zeros,
    Nat.ofDigitChars_replicate_zero]

/-! ### Numerals of given digits -/

/-- The digits of a positive number. -/
structure Proper (digits : List Char) : Prop where
  isDigit : ∀ c ∈ digits, c.isDigit = true
  ne_nil : digits ≠ []
  leading : digits.head? ≠ some '0'

private theorem proper_digits (hpos : 0 < d.coefficient) : Proper d.digits where
  isDigit _ := isDigit_of_mem_digits
  ne_nil := Nat.toDigits_ne_nil
  leading := head?_toDigits_ne hpos

/-- Whether a text is a numeral of the layout that stands for the number with these digits and the
point behind `point` of them. -/
def Lays (layout : Layout) (text digits : List Char) (point : ℤ) : Prop :=
  ∃ n : Numeral, text = n.chars ∧
    n.decimal.value = digitsValue digits * 10 ^ (point - digits.length) ∧ layout.Tidy n

variable {digits : List Char} {point : ℤ}

/-- All digits stand behind the point. -/
theorem lays_behindPoint (h : Proper digits) (hpoint : point ≤ 0) :
    layout.Lays ('0' :: '.' :: (zeros (-point) ++ digits)) digits point := by
  have hfraction : ∀ c ∈ zeros (-point) ++ digits, c.isDigit = true := by
    intro c hc
    exact (List.mem_append.1 hc).elim isDigit_of_mem_zeros (h.isDigit c)
  have hnil : zeros (-point) ++ digits ≠ [] := List.append_ne_nil_of_right_ne_nil _ h.ne_nil
  refine ⟨⟨⟨['0'], zeros (-point) ++ digits, by simp, by simp, hfraction⟩, none⟩, ?_, ?_,
    .inl rfl, fun _ => .inl hnil⟩
  · simp [Numeral.chars, Literal.chars, h.ne_nil]
  · have hvalue : digitsValue (['0'] ++ (zeros (-point) ++ digits)) = digitsValue digits := by
      rw [digitsValue_append (by simp) hfraction, ← digitsValue_zeros_append _ h.isDigit,
        digitsValue_eq hfraction]
      rfl
    rw [Decimal.value, Numeral.decimal]
    dsimp only
    rw [hvalue]
    congr 2
    simp only [Option.elim_none, List.length_append, zeros, List.length_replicate]
    omega

/-- All digits stand before the point. -/
theorem lays_beforePoint (h : Proper digits) (hpoint : digits.length ≤ point)
    (htail : layout.wholeTail = "" ∨ layout.wholeTail = ".0") :
    layout.Lays (digits ++ zeros (point - digits.length) ++ layout.wholeTail.toList)
      digits point := by
  have hall : ∀ c ∈ digits ++ zeros (point - digits.length), c.isDigit = true := by
    intro c hc
    exact (List.mem_append.1 hc).elim (h.isDigit c) isDigit_of_mem_zeros
  have hnil : digits ++ zeros (point - digits.length) ≠ [] :=
    List.append_ne_nil_of_left_ne_nil h.ne_nil _
  have hleading : (digits ++ zeros (point - digits.length)).head? ≠ some '0' := by
    rw [List.head?_append_of_ne_nil _ h.ne_nil]
    exact h.leading
  have hpower : (10 : ℚ) ^ (point - digits.length) = 10 ^ (point - digits.length).toNat := by
    rw [← zpow_natCast, Int.toNat_of_nonneg (by omega)]
  rcases htail with htail | htail
  · refine ⟨⟨⟨_, [], hnil, hall, by simp⟩, none⟩, ?_, ?_, .inr hleading, fun h => absurd htail h⟩
    · simp [Numeral.chars, Literal.chars, htail]
    · rw [hpower, Decimal.value, Numeral.decimal]
      simp [digitsValue_append_zeros h.isDigit, mul_comm]
  · refine ⟨⟨⟨_, ['0'], hnil, hall, by simp⟩, none⟩, ?_, ?_, .inr hleading,
      fun _ => .inl (by simp)⟩
    · simp [Numeral.chars, Literal.chars, htail]
    · -- the zero behind the point makes the digits ten times as much
      have hvalue : digitsValue (digits ++ zeros (point - digits.length) ++ ['0']) =
          10 * (10 ^ (point - digits.length).toNat * digitsValue digits) := by
        rw [digitsValue_append hall (by simp), digitsValue_append_zeros h.isDigit]
        rfl
      rw [hpower, Decimal.value, Numeral.decimal]
      dsimp only
      rw [hvalue]
      simp
      ring

/-- The point stands among the digits. -/
theorem lays_amongDigits (h : Proper digits) (hpos : 0 < point) (hpoint : point < digits.length) :
    layout.Lays (digits.take point.toNat ++ '.' :: digits.drop point.toNat) digits point := by
  have htake : digits.take point.toNat ≠ [] := by
    rw [Ne, List.take_eq_nil_iff, not_or]
    exact ⟨by omega, h.ne_nil⟩
  have hdrop : digits.drop point.toNat ≠ [] := by
    rw [Ne, List.drop_eq_nil_iff]
    omega
  refine ⟨⟨⟨digits.take point.toNat, digits.drop point.toNat, htake,
    fun c hc => h.isDigit c (List.mem_of_mem_take hc),
    fun c hc => h.isDigit c (List.mem_of_mem_drop hc)⟩, none⟩, ?_, ?_, .inr ?_,
    fun _ => .inl hdrop⟩
  · simp [Numeral.chars, Literal.chars, hdrop]
  · have hlength : (digits.drop point.toNat).length = digits.length - point.toNat :=
      List.length_drop
    have hnat : (point.toNat : ℤ) = point := Int.toNat_of_nonneg (by omega)
    rw [Decimal.value, Numeral.decimal]
    dsimp only
    rw [List.take_append_drop, hlength]
    congr 2
    rw [Option.elim_none, Nat.cast_sub (by omega), hnat]
    ring
  · rw [List.head?_take, if_neg (by omega)]
    exact h.leading

private theorem lays_positional (h : Proper digits)
    (htail : layout.wholeTail = "" ∨ layout.wholeTail = ".0") :
    layout.Lays (layout.positional digits point) digits point := by
  unfold positional
  split_ifs with hsmall hwhole
  · exact lays_behindPoint h hsmall
  · exact lays_beforePoint h hwhole htail
  · exact lays_amongDigits h (not_le.1 hsmall) (not_le.1 hwhole)

private theorem lays_scientific (h : Proper digits) :
    layout.Lays (layout.scientific digits point) digits point := by
  have hpower : ∀ c ∈ Nat.toDigits 10 (point - 1).natAbs, c.isDigit = true := fun c =>
    Nat.isDigit_of_mem_toDigits (by decide) (le_refl 10)
  unfold scientific
  -- the exponent may be filled up with zeros, which do not change it
  generalize hwidth :
    (layout.exponentWidth : ℤ) - (Nat.toDigits 10 (point - 1).natAbs).length = width
  have hfilled : ∀ c ∈ zeros width ++ Nat.toDigits 10 (point - 1).natAbs, c.isDigit = true := by
    intro c hc
    exact (List.mem_append.1 hc).elim isDigit_of_mem_zeros (hpower c)
  have hvalue : digitsValue (zeros width ++ Nat.toDigits 10 (point - 1).natAbs) =
      (point - 1).natAbs := by
    rw [digitsValue_zeros_append _ hpower, digitsValue_toDigits]
  refine ⟨⟨⟨digits.take 1, digits.drop 1, by simpa using h.ne_nil,
      fun c hc => h.isDigit c (List.mem_of_mem_take hc),
      fun c hc => h.isDigit c (List.mem_of_mem_drop hc)⟩,
    some ⟨decide (point - 1 < 0), _,
      List.append_ne_nil_of_right_ne_nil (zeros width) Nat.toDigits_ne_nil, hfilled⟩⟩,
    ?_, ?_, .inr ?_, fun _ => .inr nofun⟩
  · have hfraction : digits.length ≤ 1 ↔ digits.drop 1 = [] := List.drop_eq_nil_iff.symm
    simp only [hfraction, hwidth, Numeral.chars, Literal.chars, Power.chars, Power.sign,
      Option.elim_some, decide_eq_true_eq]
  · have hexponent : (if point - 1 < 0 then -((point - 1).natAbs : ℤ) else (point - 1).natAbs) =
        point - 1 := by
      split_ifs <;> omega
    have hlength : (digits.drop 1).length = digits.length - 1 := List.length_drop
    have hne : digits.length ≠ 0 := by simpa using h.ne_nil
    rw [Decimal.value, Numeral.decimal]
    dsimp only
    rw [List.take_append_drop, Option.elim_some, Power.value]
    simp only [hvalue, decide_eq_true_eq, hexponent, hlength]
    congr 2
    omega
  · rw [List.head?_take, if_neg one_ne_zero]
    exact h.leading

/-- A decimal is written by a numeral that stands for the same number. -/
theorem writes_magnitude (hpos : 0 < d.coefficient)
    (htail : layout.wholeTail = "" ∨ layout.wholeTail = ".0") :
    layout.Writes (layout.magnitude d) d := by
  have hproper := proper_digits hpos
  rw [Writes, value_eq_digits]
  unfold magnitude
  split_ifs
  · exact lays_positional hproper htail
  · exact lays_scientific hproper

/-- A finite float other than the zeros is written by a numeral for it behind at most a minus. -/
theorem exists_numeral_of_write {v : Float} (h : v.isFinite = true) (hpos : 0 < significand v)
    (htail : layout.wholeTail = "" ∨ layout.wholeTail = ".0") :
    ∃ n : SignedNumeral, (layout.write v).toList = n.chars ∧ n.value = v ∧
      n.numeral.decimal.value = (Decimal.shortest v).value ∧ layout.Tidy n.numeral := by
  obtain ⟨n, htext, hvalue, htidy⟩ := @writes_magnitude layout _
    (Decimal.coefficient_shortest_pos h hpos) htail
  have hzero : ¬ (v == 0) = true := by
    rw [Binary.beq_zero_iff h]
    omega
  refine ⟨⟨signBit v, n⟩, ?_, ?_, hvalue, htidy⟩
  · unfold write
    simp only [Binary.kind_of_isFinite h, Bool.false_eq_true, if_false, hzero]
    rw [String.toList_append, String.toList_ofList, htext, SignedNumeral.chars,
      SignedNumeral.minus, Binary.signBit_eq_decide h hpos]
    by_cases hnegative : v < 0 <;> simp [hnegative]
  · rw [SignedNumeral.value, Decimal.toFloat_congr hvalue, Decimal.toFloat_shortest h,
      Binary.withSign_abs h]

end Layout

end DeskCalculator
