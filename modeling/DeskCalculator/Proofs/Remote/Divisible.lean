import DeskCalculator.Proofs.Decimal.Numeral
import DeskCalculator.Proofs.Remote.Asking

/-!
# What can be divided

A division is asked for if both numbers are spelled in decimal digits of any script and
the divisor is not zero (`divisions_sent`).  Every other pair of texts is refused, and
nothing is sent.  There are two exceptions (`line_feed_sent_long_divisor_refused`): behind
the digits a line feed may stand, with which they are sent, and a divisor of more than
4300 digits is refused whatever its value is.
-/

namespace DeskCalculator.Remote

open Text

/-! ## Numbers in digits -/

/-- Whether a text spells a number in these decimal digits, behind which a line feed may stand. -/
structure Spells (text digits : List Char) : Prop where
  nonempty : digits ≠ []
  decimal : ∀ c ∈ digits, isDigit c = true
  written : text = digits ∨ text = digits ++ ['\n']

variable {text digits : List Char}

theorem not_isDigit_lineFeed : isDigit '\n' = false := by decide

theorem isDigits_iff : isDigits text = true ↔ ∃ digits, Spells text digits := by
  have hbody : isDigits text = true ↔
      withoutLineFeed text ≠ [] ∧ ∀ c ∈ withoutLineFeed text, isDigit c = true := by
    simp [isDigits]
  rw [hbody]
  constructor
  · rintro ⟨hne, hdecimal⟩
    refine ⟨_, hne, hdecimal, ?_⟩
    unfold withoutLineFeed
    split_ifs with hlast
    · exact .inr (List.dropLast_append_getLast? _ hlast).symm
    · exact .inl rfl
  · rintro ⟨digits, hne, hdecimal, rfl | rfl⟩
    · have hlast : text.getLast? ≠ some '\n' := fun hlast => by
        have := hdecimal _ (List.mem_of_getLast? hlast)
        rw [not_isDigit_lineFeed] at this
        cases this
      rw [withoutLineFeed, if_neg hlast]
      exact ⟨hne, hdecimal⟩
    · rw [withoutLineFeed, if_pos List.getLast?_concat, List.dropLast_concat]
      exact ⟨hne, hdecimal⟩

/-! ## The value of a number -/

theorem ne_of_isDigit {c other : Char} (h : isDigit c = true) (hother : isDigit other = false) :
    c ≠ other := by
  rintro rfl
  rw [hother] at h
  cases h

private theorem not_isNumeralBlank_of_isDigit {c : Char} (h : isDigit c = true) :
    isNumeralBlank c = false := by
  unfold isNumeralBlank
  split_ifs with hascii
  · have hspace : c ≠ ' ' := ne_of_isDigit h (by decide)
    rw [Entry.isDigit_of_ascii hascii, Entry.toNat_of_isDigit] at h
    simp only [Bool.eq_false_iff, ne_eq, Bool.or_eq_true, beq_iff_eq, hspace, Bool.and_eq_true,
      decide_eq_true_eq, false_or]
    omega
  · exact Entry.not_isBlank_of_isDigit h

private theorem splitSign_of_isDigit {c : Char} {rest : List Char} (h : isDigit c = true) :
    splitSign (c :: rest) = (false, c :: rest) := by
  unfold splitSign
  split
  · next hminus =>
      cases hminus
      exact absurd h (by decide)
  · next hplus =>
      cases hplus
      exact absurd h (by decide)
  · rfl

/-- Digits are read without any underscores. -/
theorem separated_of_digits (h : ∀ c ∈ digits, isDigit c = true) :
    separated true digits = true := by
  induction digits with
  | nil => rfl
  | cons c rest ih =>
      obtain ⟨hc, hrest⟩ := List.forall_mem_cons.1 h
      rw [separated, if_neg (ne_of_isDigit hc (by decide)), ih hrest]

/-- Of a number in digits the value is read unless there are too many of them. -/
theorem Spells.readInteger_eq (h : Spells text digits) : readInteger text =
    if numeralLimit < digits.length then .error (.tooLong digits.length)
    else .ok (digitsValue digits) := by
  obtain ⟨hne, hdecimal, hwritten⟩ := h
  obtain ⟨behind, hbehind, rfl⟩ : ∃ behind, (behind = [] ∨ behind = ['\n']) ∧
      text = digits ++ behind := by
    rcases hwritten with rfl | rfl
    · exact ⟨[], .inl rfl, (List.append_nil _).symm⟩
    · exact ⟨['\n'], .inr rfl, rfl⟩
  obtain ⟨c, rest, rfl⟩ := List.exists_cons_of_ne_nil hne
  have hfirst : isDigit c = true := hdecimal c List.mem_cons_self
  -- nothing but the digits stands before the line feed
  have hstart : (c :: rest ++ behind).dropWhile isNumeralBlank = c :: rest ++ behind :=
    List.dropWhile_cons_of_neg (by rw [not_isNumeralBlank_of_isDigit hfirst]; exact nofun)
  have hsign : splitSign (c :: rest ++ behind) = (false, c :: rest ++ behind) :=
    splitSign_of_isDigit hfirst
  have hrun : (c :: rest ++ behind).takeWhile (fun d => isDigit d || d == '_') = c :: rest := by
    refine Entry.takeWhile_append_of_stop (fun d hd => by rw [hdecimal d hd]; rfl) ?_
    rcases hbehind with rfl | rfl
    · exact nofun
    · rintro d ⟨⟩
      decide
  have hseparated : separated false (c :: rest) = true := by
    rw [separated, if_neg (ne_of_isDigit hfirst (by decide))]
    exact separated_of_digits (List.forall_mem_cons.1 hdecimal).2
  have hdigits : (c :: rest).filter (· != '_') = c :: rest :=
    List.filter_eq_self.2 fun d hd => bne_iff_ne.2 (ne_of_isDigit (hdecimal d hd) (by decide))
  have hblank : behind.all isNumeralBlank = true := by
    rcases hbehind with rfl | rfl <;> decide
  rw [readInteger, hstart, hsign]
  simp only [hrun, hseparated, hdigits, List.drop_left, hblank]
  rfl

theorem Spells.isEncodable [Platform] (h : Spells text digits) : isEncodable text = true := by
  have hdigits : Text.isEncodable digits = true := isEncodable_iff.2 fun c hc =>
    Bool.eq_false_iff.2 fun hhalf =>
      Bool.eq_false_iff.1 (not_isDigit_of_isHalf hhalf) (h.decimal c hc)
  rcases h.written with rfl | rfl
  · exact hdigits
  · rw [isEncodable_append, hdigits, Bool.true_and]
    exact isEncodable_of_all (by decide)

/-! ## The check -/

variable {dividend divisor : String}

/-- Whether both numbers are spelled in digits. -/
def BothSpelled (dividend divisor : String) : Prop :=
  (∃ digits, Spells dividend.toList digits) ∧ ∃ digits, Spells divisor.toList digits

/-- Whether two texts can be divided: both are spelled in digits, of which the divisor has no more
than are ever read, and the divisor is not zero. -/
def Divisible (dividend divisor : String) : Prop :=
  (∃ digits, Spells dividend.toList digits) ∧
    ∃ digits, Spells divisor.toList digits ∧ digits.length ≤ numeralLimit ∧ digitsValue digits ≠ 0

private theorem checkDivision_of_not_spelled (h : ¬ BothSpelled dividend divisor) :
    checkDivision dividend divisor = .error .notDigits := by
  rw [BothSpelled, ← isDigits_iff, ← isDigits_iff, not_and_or, Bool.not_eq_true,
    Bool.not_eq_true] at h
  rw [checkDivision, if_pos]
  rcases h with h | h <;> simp [h]

/-- What the check says of two numbers in digits, from those of the divisor. -/
def verdict (digits : List Char) : Except Refusal Unit :=
  if numeralLimit < digits.length then .error (.tooLong digits.length)
  else if digitsValue digits = 0 then .error .zeroDivisor else .ok ()

theorem checkDivision_of_spells (hdividend : ∃ digits, Spells dividend.toList digits)
    (hdivisor : Spells divisor.toList digits) :
    checkDivision dividend divisor = verdict digits := by
  have hboth : (!isDigits dividend.toList || !isDigits divisor.toList) = false := by
    rw [isDigits_iff.2 hdividend, isDigits_iff.2 ⟨digits, hdivisor⟩]
    rfl
  rw [checkDivision, hboth, hdivisor.readInteger_eq, verdict]
  by_cases hlong : numeralLimit < digits.length <;> simp [hlong]

private theorem verdict_ne_notDigits : verdict digits ≠ .error .notDigits := by
  unfold verdict
  split_ifs <;> exact nofun

private theorem verdict_eq_ok_iff :
    verdict digits = .ok () ↔ digits.length ≤ numeralLimit ∧ digitsValue digits ≠ 0 := by
  unfold verdict
  split_ifs with hlong hzero
  · simp [hlong]
  · simp [hzero]
  · simp [hzero, not_lt.1 hlong]

private theorem verdict_eq_zeroDivisor_iff : verdict digits = .error .zeroDivisor ↔
    digits.length ≤ numeralLimit ∧ digitsValue digits = 0 := by
  unfold verdict
  split_ifs with hlong hzero
  · simp [hlong]
  · simp [hzero, not_lt.1 hlong]
  · simp [hzero]

private theorem verdict_eq_tooLong_iff {count : ℕ} : verdict digits = .error (.tooLong count) ↔
    numeralLimit < digits.length ∧ digits.length = count := by
  unfold verdict
  split_ifs with hlong hzero <;> simp [hlong]

theorem checkDivision_eq_notDigits_iff :
    checkDivision dividend divisor = .error .notDigits ↔ ¬ BothSpelled dividend divisor := by
  refine ⟨?_, checkDivision_of_not_spelled⟩
  rintro h ⟨hdividend, digits, hdivisor⟩
  rw [checkDivision_of_spells hdividend hdivisor] at h
  exact verdict_ne_notDigits h

/-- Any other outcome is the verdict on two numbers in digits. -/
theorem checkDivision_eq_iff {outcome : Except Refusal Unit} (hne : outcome ≠ .error .notDigits) :
    checkDivision dividend divisor = outcome ↔ (∃ digits, Spells dividend.toList digits) ∧
      ∃ digits, Spells divisor.toList digits ∧ verdict digits = outcome := by
  constructor
  · rintro rfl
    obtain ⟨hdividend, digits, hdivisor⟩ :=
      not_not.1 (mt checkDivision_eq_notDigits_iff.2 hne)
    exact ⟨hdividend, digits, hdivisor, (checkDivision_of_spells hdividend hdivisor).symm⟩
  · rintro ⟨hdividend, digits, hdivisor, rfl⟩
    exact checkDivision_of_spells hdividend hdivisor

theorem checkDivision_eq_ok_iff :
    checkDivision dividend divisor = .ok () ↔ Divisible dividend divisor := by
  refine (checkDivision_eq_iff ?_).trans ?_
  · exact nofun
  · simp only [verdict_eq_ok_iff, Divisible]

theorem checkDivision_eq_zeroDivisor_iff : checkDivision dividend divisor = .error .zeroDivisor ↔
    (∃ digits, Spells dividend.toList digits) ∧ ∃ digits, Spells divisor.toList digits ∧
      digits.length ≤ numeralLimit ∧ digitsValue digits = 0 := by
  refine (checkDivision_eq_iff ?_).trans ?_
  · exact nofun
  · simp only [verdict_eq_zeroDivisor_iff]

theorem checkDivision_eq_tooLong_iff {count : ℕ} :
    checkDivision dividend divisor = .error (.tooLong count) ↔
      (∃ digits, Spells dividend.toList digits) ∧ ∃ digits, Spells divisor.toList digits ∧
        numeralLimit < digits.length ∧ digits.length = count := by
  refine (checkDivision_eq_iff ?_).trans ?_
  · exact nofun
  · simp only [verdict_eq_tooLong_iff]

/-! ## Messages -/

private theorem prefix_tooLongMessage (count : ℕ) :
    "Exceeds the limit (".toList <+: (tooLongMessage count).toList := by
  unfold tooLongMessage
  simp only [String.toList_append, List.append_assoc]
  exact List.prefix_append _ _

theorem tooLongMessage_ne {count : ℕ} {message : String}
    (h : ¬ "Exceeds the limit (".toList <+: message.toList) : tooLongMessage count ≠ message := by
  rintro rfl
  exact h (prefix_tooLongMessage count)

theorem message_eq_notDigits_iff {refusal : Refusal} :
    refusal.message = "Invalid input: Please use non-negative integers." ↔
      refusal = .notDigits := by
  cases refusal with
  | notDigits => exact iff_of_true rfl rfl
  | zeroDivisor => exact iff_of_false (by decide) nofun
  | tooLong count => exact iff_of_false (tooLongMessage_ne (by decide)) nofun

theorem message_eq_zeroDivisor_iff {refusal : Refusal} :
    refusal.message = "Error: Cannot divide by zero." ↔ refusal = .zeroDivisor := by
  cases refusal with
  | notDigits => exact iff_of_false (by decide) nofun
  | zeroDivisor => exact iff_of_true rfl rfl
  | tooLong count => exact iff_of_false (tooLongMessage_ne (by decide)) nofun

namespace Client

section

variable [Platform] {client : Client} {wire : Wire}

/-- A division that is refused sends nothing. -/
theorem divide_of_refused {refusal : Refusal}
    (h : checkDivision dividend divisor = .error refusal) :
    client.divide dividend divisor wire = ⟨[], .error (.refused refusal)⟩ := by
  rw [divide, h]

theorem divide_of_ok (h : checkDivision dividend divisor = .ok ()) :
    client.divide dividend divisor wire =
      let exchange := client.generate divisionInstruction (divisionPrompt dividend divisor) wire
      ⟨exchange.sent, exchange.outcome.mapError .remote⟩ := by
  rw [divide, h]

/-- A division is refused if the check says so. -/
theorem outcome_divide_eq_refused_iff {refusal : Refusal} :
    (client.divide dividend divisor wire).outcome = .error (.refused refusal) ↔
      checkDivision dividend divisor = .error refusal := by
  cases hcheck : checkDivision dividend divisor with
  | error found =>
      rw [divide_of_refused hcheck]
      simp
  | ok value =>
      rw [divide_of_ok hcheck]
      simp only
      generalize (client.generate divisionInstruction (divisionPrompt dividend divisor)
        wire).outcome = outcome
      cases outcome <;> simp [Except.mapError]

private theorem isEncodable_divisionPrompt (h : Divisible dividend divisor) :
    isEncodable (divisionPrompt dividend divisor).toList = true := by
  obtain ⟨⟨_, hdividend⟩, _, hdivisor, -⟩ := h
  unfold divisionPrompt
  simp only [String.toList_append, isEncodable_append, hdividend.isEncodable, hdivisor.isEncodable,
    Bool.and_true, Bool.and_eq_true]
  exact ⟨⟨isEncodable_of_all (by decide), isEncodable_of_all (by decide)⟩,
    isEncodable_of_all (by decide)⟩

/-- Two texts that can be divided are sent as they are, in one request, by a client that can ask. -/
theorem sent_divide_of_divisible (hcan : client.CanAsk "generateContent")
    (h : Divisible dividend divisor) :
    ∃ asked, (client.divide dividend divisor wire).sent = [asked] ∧ asked.body =
      requestBody divisionInstruction [⟨userRole, divisionPrompt dividend divisor⟩] := by
  have hsendable : (requestBody divisionInstruction
      [⟨userRole, divisionPrompt dividend divisor⟩]).isSendable = true := by
    rw [isSendable_promptBody, isEncodable_divisionInstruction, isEncodable_divisionPrompt h]
    rfl
  obtain ⟨asked, hasked⟩ := exists_request_iff.2 ⟨hcan, hsendable⟩
  refine ⟨asked, ?_, body_of_request hasked⟩
  rw [divide_of_ok (checkDivision_eq_ok_iff.2 h), sent_generate, answerRequest, hasked]
  rfl

private theorem sent_divide_eq_nil
    (h : ¬ (client.CanAsk "generateContent" ∧ Divisible dividend divisor)) :
    (client.divide dividend divisor wire).sent = [] := by
  cases hcheck : checkDivision dividend divisor with
  | error refusal => rw [divide_of_refused hcheck]
  | ok value =>
      rw [divide_of_ok hcheck, sent_generate]
      cases hasked : client.answerRequest divisionInstruction (divisionPrompt dividend divisor) with
      | error failure => rfl
      | ok asked =>
          have hcan := (exists_request_iff.1 ⟨asked, hasked⟩).1
          exact absurd ⟨hcan, checkDivision_eq_ok_iff.1 hcheck⟩ h

/-- Whether a division is refused with a message, and nothing is sent. -/
def RefusedWith (exchange : Exchange (Except DivisionFailure String)) (message : String) : Prop :=
  exchange.sent = [] ∧
    ∃ refusal, exchange.outcome = .error (.refused refusal) ∧ refusal.message = message

private theorem refusedWith_iff {refusal : Refusal} {message : String}
    (h : ∀ other : Refusal, other.message = message ↔ other = refusal) :
    RefusedWith (client.divide dividend divisor wire) message ↔
      checkDivision dividend divisor = .error refusal := by
  simp only [RefusedWith, h, exists_eq_right, outcome_divide_eq_refused_iff, and_iff_right_iff_imp]
  intro hcheck
  rw [divide_of_refused hcheck]

/-- A client that can ask sends two texts that can be divided as they are, and nothing otherwise.
With the message about the divisor are refused just those in digits whose divisor is zero, with the
message about the input just those that are not both in digits, and what is left are divisors of too
many digits. -/
theorem divisions_sent (client : Client) (wire : Wire) (dividend divisor : String) :
    let exchange := client.divide dividend divisor wire
    (client.CanAsk "generateContent" → Divisible dividend divisor →
      ∃ asked, exchange.sent = [asked] ∧ asked.body = requestBody divisionInstruction [⟨userRole,
        "Solve the long division problem: " ++ dividend ++ " / " ++ divisor ++ "."⟩]) ∧
    (¬ (client.CanAsk "generateContent" ∧ Divisible dividend divisor) → exchange.sent = []) ∧
    ((∃ refusal, exchange.outcome = .error (.refused refusal)) ↔ ¬ Divisible dividend divisor) ∧
    (RefusedWith exchange "Error: Cannot divide by zero." ↔
      (∃ digits, Spells dividend.toList digits) ∧ ∃ digits, Spells divisor.toList digits ∧
        digits.length ≤ numeralLimit ∧ digitsValue digits = 0) ∧
    (RefusedWith exchange "Invalid input: Please use non-negative integers." ↔
      ¬ BothSpelled dividend divisor) ∧
    ∀ count, exchange.outcome = .error (.refused (.tooLong count)) ↔
      (∃ digits, Spells dividend.toList digits) ∧ ∃ digits, Spells divisor.toList digits ∧
        numeralLimit < digits.length ∧ digits.length = count := by
  refine ⟨sent_divide_of_divisible, sent_divide_eq_nil, ?_, ?_, ?_, fun count => ?_⟩
  · rw [← checkDivision_eq_ok_iff]
    simp only [outcome_divide_eq_refused_iff]
    cases checkDivision dividend divisor with
    | error refusal => exact iff_of_true ⟨refusal, rfl⟩ nofun
    | ok value => exact iff_of_false nofun (not_not.2 rfl)
  · rw [refusedWith_iff fun _ => message_eq_zeroDivisor_iff, checkDivision_eq_zeroDivisor_iff]
  · rw [refusedWith_iff fun _ => message_eq_notDigits_iff, checkDivision_eq_notDigits_iff]
  · rw [outcome_divide_eq_refused_iff, checkDivision_eq_tooLong_iff]

end

/-- A client with a key for the default model. -/
def keyed : Client := new (some "k") defaultModel defaultAddress

theorem canAsk_keyed : keyed.CanAsk "generateContent" :=
  canAsk_default (by decide) (any_isBeyondAscii_eq_false_iff.1 (by decide)) (.inl rfl)

/-- Digits of any script can be divided, zero divides nothing, and nothing is no number. -/
theorem divisions_sent_arabic :
    let wire : Wire := fun _ => .unreachable
    keyed.CanAsk "generateContent" ∧ Divisible "\u0663\u0666" "\u0663" ∧
      (∃ asked, (keyed.divide "\u0663\u0666" "\u0663" wire).sent = [asked]) ∧
      RefusedWith (keyed.divide "5" "\u0660" wire) "Error: Cannot divide by zero." ∧
      RefusedWith (keyed.divide "2" "" wire)
        "Invalid input: Please use non-negative integers." := by
  intro wire
  have hdivisible : Divisible "\u0663\u0666" "\u0663" := checkDivision_eq_ok_iff.1 (by decide)
  obtain ⟨hsent, -⟩ := divisions_sent keyed wire "\u0663\u0666" "\u0663"
  obtain ⟨-, -, -, hzero, -⟩ := divisions_sent keyed wire "5" "\u0660"
  obtain ⟨-, -, -, -, hnothing, -⟩ := divisions_sent keyed wire "2" ""
  obtain ⟨asked, hasked, -⟩ := hsent canAsk_keyed hdivisible
  refine ⟨canAsk_keyed, hdivisible, ⟨asked, hasked⟩, hzero.2 ?_, hnothing.2 ?_⟩
  · exact checkDivision_eq_zeroDivisor_iff.1 (by decide)
  · exact checkDivision_eq_notDigits_iff.1 (by decide)

theorem isDigit_of_mem_power {count : ℕ} : ∀ c ∈ '1' :: List.replicate count '0',
    c.isDigit = true := by
  intro c hc
  rcases List.mem_cons.1 hc with rfl | hc
  · rfl
  · rw [List.eq_of_mem_replicate hc]
    rfl

private theorem digitsValue_power_pos (count : ℕ) :
    0 < digitsValue ('1' :: List.replicate count '0') := by
  have hone : 10 * 0 + ('1'.toNat - '0'.toNat) = 1 := by decide
  rw [digitsValue_eq isDigit_of_mem_power, Nat.ofDigitChars_cons, Nat.ofDigitChars_replicate_zero,
    hone, Nat.mul_one]
  exact Nat.pow_pos (by decide)

/-- A dividend with a line feed behind its digits is sent, and ten to the power of 4300 is refused
as a divisor, with neither message. -/
theorem line_feed_sent_long_divisor_refused :
    let wire : Wire := fun _ => .unreachable
    let divisor := '1' :: List.replicate 4300 '0'
    (isDigit '\n' = false ∧ ∃ asked, (keyed.divide "12\n" "4" wire).sent = [asked]) ∧
      (∀ c ∈ divisor, isDigit c = true) ∧ digitsValue divisor ≠ 0 ∧
      keyed.divide "7" (String.ofList divisor) wire =
        ⟨[], .error (.refused (.tooLong 4301))⟩ := by
  intro wire divisor
  have hdecimal : ∀ c ∈ divisor, isDigit c = true := fun c hc =>
    Entry.isDigit_of_core (isDigit_of_mem_power c hc)
  have hlength : divisor.length = 4301 := by
    rw [List.length_cons, List.length_replicate]
  have hlineFeed : Divisible "12\n" "4" := checkDivision_eq_ok_iff.1 (by decide)
  have hsent : ∃ asked, (keyed.divide "12\n" "4" wire).sent = [asked] :=
    (sent_divide_of_divisible canAsk_keyed hlineFeed).imp fun _ => And.left
  refine ⟨⟨not_isDigit_lineFeed, hsent⟩, hdecimal, (digitsValue_power_pos 4300).ne',
    divide_of_refused ?_⟩
  refine checkDivision_eq_tooLong_iff.2 ⟨isDigits_iff.1 (by decide), divisor, ?_, ?_, hlength⟩
  · exact ⟨List.cons_ne_nil _ _, hdecimal, .inl String.toList_ofList⟩
  · rw [hlength]
    decide

end Client

end DeskCalculator.Remote
