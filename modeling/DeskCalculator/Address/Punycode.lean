/-!
# Letters beyond ASCII in ASCII

A text is written in ASCII as its ASCII characters, a hyphen, and a number for
each other character.  Such a number counts the steps from one insertion to the
next, where the characters are inserted in order of their code points, and those
of one code point from left to right: one step goes to the next place in the
text, and from the last place to the first place for the next code point.

A number is written with the least digit first, and the digit that ends it is
known by a threshold.  The thresholds adapt to the size of the numbers before.
-/

namespace DeskCalculator.Punycode

/-! ## Numbers -/

/-- How many digits there are. -/
def base : Nat := 36

/-- The first code point that is not written as itself. -/
def firstCode : Nat := 0x80

/-- The bias of the first number. -/
def firstBias : Nat := 72

/-- The threshold of the digit at a place, which is counted from zero. -/
def threshold (bias place : Nat) : Nat :=
  min 26 (max 1 (base * (place + 1) - bias))

/-- The digit that stands for a number below 36. -/
def digit (value : Nat) : Char :=
  if value < 26 then Char.ofNat ('a'.toNat + value) else Char.ofNat ('0'.toNat + (value - 26))

/-- The value of a digit. -/
def digitValue? (c : Char) : Option Nat :=
  if c.isLower then some (c.toNat - 'a'.toNat)
  else if c.isUpper then some (c.toNat - 'A'.toNat)
  else if c.isDigit then some (26 + (c.toNat - '0'.toNat))
  else none

private theorem threshold_pos (bias place : Nat) : 0 < threshold bias place := by
  simp only [threshold]
  omega

/-- The digits of a number from a place on. -/
def digits (bias place number : Nat) : List Char :=
  let limit := threshold bias place
  if number < limit then [digit number]
  else
    digit (limit + (number - limit) % (base - limit)) ::
      digits bias (place + 1) ((number - limit) / (base - limit))
termination_by number
decreasing_by
  have := threshold_pos bias place
  exact Nat.lt_of_le_of_lt (Nat.div_le_self _ _) (by omega)

/-- The number that stands at the start of a text, and the rest of the text; `place` digits of it
have been read, which make up `sum`, and its next digit has the weight `weight`. -/
def readNumber? (bias place weight sum : Nat) : List Char → Option (Nat × List Char)
  | [] => none
  | c :: rest =>
    match digitValue? c with
    | none => none
    | some value =>
      let limit := threshold bias place
      if value < limit then some (sum + value * weight, rest)
      else readNumber? bias (place + 1) (weight * (base - limit)) (sum + value * weight) rest

/-- Divides a number until it is small, and counts the divisions. -/
def scaleDown (number count : Nat) : Nat × Nat :=
  if 455 < number then scaleDown (number / 35) (count + 1) else (number, count)
termination_by number
decreasing_by omega

/-- The bias for the number behind `number`, after which `length` characters are placed. -/
def adapted (number length : Nat) (isFirst : Bool) : Nat :=
  let halved := if isFirst then number / 700 else number / 2
  let (rest, count) := scaleDown (halved + halved / length) 0
  base * count + base * rest / (rest + 38)

/-! ## Writing -/

/-- What has been written of a text. -/
structure Progress where
  /-- The numbers so far. -/
  written : List Char
  /-- How many steps have been made since the last insertion. -/
  steps : Nat
  /-- How many characters have been placed. -/
  placed : Nat
  /-- The bias of the next number. -/
  bias : Nat
  /-- Whether no number has been written. -/
  isFirst : Bool

/-- Goes past a character of the text, or inserts it if it has the code point `code`. -/
def Progress.pass (code : Nat) (progress : Progress) (c : Char) : Progress :=
  if c.toNat < code then { progress with steps := progress.steps + 1 }
  else if c.toNat = code then
    { written := progress.written ++ digits progress.bias 0 progress.steps
      steps := 0
      placed := progress.placed + 1
      bias := adapted progress.steps (progress.placed + 1) progress.isFirst
      isFirst := false }
  else progress

/-- Inserts the characters of some code points, which are given in order; `next` is the code point
that the steps so far have reached. -/
def insertAll (text : List Char) (next : Nat) (progress : Progress) : List Nat → Progress
  | [] => progress
  | code :: rest =>
    let moved := { progress with
      steps := progress.steps + (code - next) * (progress.placed + 1) }
    let done := text.foldl (Progress.pass code) moved
    insertAll text (code + 1) { done with steps := done.steps + 1 } rest

/-- The code points beyond ASCII of a text, in order and each once. -/
def codes (text : List Char) : List Nat :=
  ((text.map Char.toNat).filter (firstCode ≤ ·)).mergeSort.eraseDups

/-- A text in ASCII. -/
def encode (text : List Char) : List Char :=
  let plain := text.filter (·.toNat < firstCode)
  let start : Progress := ⟨[], 0, plain.length, firstBias, true⟩
  let numbers := (insertAll text firstCode start (codes text)).written
  if plain.isEmpty then numbers else plain ++ '-' :: numbers

/-! ## Reading -/

/-- The character of a code point, if it is one. -/
def character? (code : Nat) : Option Char :=
  if code.isValidChar then some (Char.ofNat code) else none

private theorem length_readNumber? {bias place weight sum : Nat} {text : List Char}
    {result : Nat × List Char} (h : readNumber? bias place weight sum text = some result) :
    result.2.length < text.length := by
  induction text generalizing place weight sum with
  | nil => simp [readNumber?] at h
  | cons c rest ih =>
      simp only [readNumber?] at h
      split at h
      · simp at h
      · split at h
        · obtain rfl := Option.some.inj h
          simp
        · exact Nat.lt_succ_of_lt (ih h)

/-- Inserts characters into `text` by the numbers in a text, where the last insertion was before
`place` and of the code point `code`. -/
def insertFrom? (text : List Char) (code place bias : Nat) (isFirst : Bool) (numbers : List Char) :
    Option (List Char) :=
  if numbers.isEmpty then some text
  else
    match _h : readNumber? bias 0 1 0 numbers with
    | none => none
    | some (steps, rest) =>
      let length := text.length + 1
      let next := code + (place + steps) / length
      match character? next with
      | none => none
      | some c =>
        let spot := (place + steps) % length
        insertFrom? (text.take spot ++ c :: text.drop spot) next (spot + 1)
          (adapted steps length isFirst) false rest
termination_by numbers.length
decreasing_by exact length_readNumber? (by assumption)

/-- The text that is written in ASCII. -/
def decode? (written : List Char) : Option (List Char) :=
  let numbers := (written.reverse.takeWhile (· != '-')).reverse
  let plain := written.take (written.length - numbers.length - 1)
  insertFrom? plain firstCode 0 firstBias true numbers

end DeskCalculator.Punycode
