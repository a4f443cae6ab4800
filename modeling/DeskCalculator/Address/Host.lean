import DeskCalculator.Address.Escape
import DeskCalculator.Address.Label
import DeskCalculator.Text.Digit
import DeskCalculator.Text.Small

/-!
# Hosts

A host is given by a number of four octets, by a number of eight groups in
brackets, or by a name.  A name in ASCII may hold whatever can be escaped; one
with other characters consists of labels, which are written in ASCII.
-/

namespace DeskCalculator.Host

open Text

/-! ## Numbers -/

/-- Whether a text is a number from 0 to 255 without needless zeros. -/
def isOctet (digits : List Char) : Bool :=
  !digits.isEmpty && digits.all Char.isDigit && digits.length ≤ 3 && digitsValue digits < 256 &&
    (digits.length == 1 || digits.head? != some '0')

/-- Whether a text is a number of four octets. -/
def isOctets (text : List Char) : Bool :=
  let octets := Address.partsAt (· == '.') text
  octets.length == 4 && octets.all isOctet

/-- Whether a text is taken for a number of octets: four runs of digits, with any one character
between each and the next.  Such a character may be a digit too, if there are enough of them. -/
def looksNumeric (text : List Char) : Bool :=
  let runs := Address.partsAt (!·.isDigit) text
  let dividers := runs.foldl (fun count run => count + (run.length - 1) / 2) (runs.length - 1)
  runs.all (!·.isEmpty) && runs.length ≤ 4 && 3 ≤ dividers

/-- Whether a text is one of eight groups: up to four hexadecimal digits. -/
def isGroup (text : List Char) : Bool :=
  !text.isEmpty && text.length ≤ 4 && text.all fun c => (hexadecimalValue? c).isSome

/-- The groups at one end of a number, where a colon at the very end is none. -/
def endGroups (groups : List (List Char)) : List (List Char) :=
  if groups = [[]] then [] else groups

/-- Whether texts with colons between them are eight groups.  One empty text in between stands for
any number of groups that are zero. -/
def areGroups : List (List Char) → Bool
  | [] | [_] => false
  | first :: rest =>
    let high := first :: rest.dropLast.takeWhile (!·.isEmpty)
    if high.length = rest.length then (first :: rest).length == 8 && (first :: rest).all isGroup
    else
      let above := endGroups high
      let below := endGroups (rest.drop high.length)
      above.length + below.length ≤ 7 && (above ++ below).all isGroup

/-- Whether a text is a number of eight groups, the last two of which may be written as octets.  A
zone may follow it behind a percent sign. -/
def isGroups (text : List Char) : Bool :=
  let number := text.takeWhile (· != '%')
  let zone := text.drop number.length
  let parts := Address.partsAt (· == ':') number
  let last := parts.getLastD []
  let groups := if '.' ∈ last then parts.dropLast ++ [['0'], ['0']] else parts
  zone != ['%'] && '%' ∉ zone.drop 1 && ('.' ∉ last || isOctets last) && areGroups groups

/-! ## Names -/

/-- What is escaped in a name. -/
def forbidden : List Char := ['#', '/', ':', '<', '>', '?', '@', '[', ']', '^']

/-- Whether a character separates the labels of a name. -/
def isDot (c : Char) : Bool :=
  c ∈ ['.', '。', '．', '｡']

/-- The most characters of a name in ASCII, without a dot at its end. -/
def maximumLength : Nat := 253

/-- Labels with dots between them. -/
def joinLabels (labels : List (List Char)) : List Char :=
  ['.'].intercalate labels

/-- A name with characters beyond ASCII in standard form. -/
def name? (text : List Char) : Option (List Char) := do
  let labels := Address.partsAt isDot (smalls text)
  let endsInDot := labels.getLast? == some []
  let written ← (if endsInDot then labels.dropLast else labels).mapM Label.toAscii?
  let joined := joinLabels written
  if joined.isEmpty ∨ maximumLength < joined.length then none
  else some (if endsInDot then joined ++ ['.'] else joined)

/-- A host in standard form.  A number of groups stands in brackets. -/
def standard? (text : List Char) : Option (List Char) :=
  if looksNumeric text then if isOctets text then some text else none
  else if text.head? = some '[' ∧ text.getLast? = some ']' then
    if isGroups text.tail.dropLast then some text else none
  else if text.all (·.toNat < 128) then
    some ((Address.escape forbidden text).map Char.toLower)
  else name? text

end DeskCalculator.Host
