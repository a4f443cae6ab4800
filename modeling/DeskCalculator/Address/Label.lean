import DeskCalculator.Address.Permitted
import DeskCalculator.Address.Punycode
import DeskCalculator.Text.Composition
import DeskCalculator.Text.Direction
import DeskCalculator.Text.Joining
import DeskCalculator.Text.Script

/-!
# Labels of a host

The name of a host consists of labels.  A label is composed text that starts
with no mark and has no hyphen at its ends or in its third and fourth place.
Most of its characters are permitted anywhere, a few only beside certain others,
and a label with a letter from right to left has such letters throughout.  A
label that is not ASCII is written in ASCII behind a mark.
-/

namespace DeskCalculator.Label

open Text

/-! ## Characters with a context -/

/-- Whether the character before, which is the first of `before`, suppresses its own vowel. -/
def followsVirama (before : List Char) : Bool :=
  before.head?.any fun c => markClass c == 9

/-- Whether letters join across a place in a label; the text before it is given from its end. -/
def joinsAcross (before after : List Char) : Bool :=
  (before.dropWhile isTransparent).head?.any joinsNext &&
    (after.dropWhile isTransparent).head?.any joinsPrevious

/-- Whether a character is an Arabic digit of the western form. -/
def isArabicDigit (c : Char) : Bool := 0x660 ≤ c.toNat && c.toNat ≤ 0x669

/-- Whether a character is an Arabic digit of the eastern form. -/
def isEasternDigit (c : Char) : Bool := 0x6F0 ≤ c.toNat && c.toNat ≤ 0x6F9

/-- Whether a character may stand between two texts in a label, the first of which is given from
its end. -/
def fitsBetween (before : List Char) (c : Char) (after : List Char) : Bool :=
  isPermitted c ||
    match c.toNat with
    -- the two joiners
    | 0x200C => followsVirama before || joinsAcross before after
    | 0x200D => followsVirama before
    -- the dot between two letters l
    | 0xB7 => before.head? == some 'l' && after.head? == some 'l'
    -- the Greek sign before a numeral and the two Hebrew signs behind one
    | 0x375 => after.head?.any isGreek
    | 0x5F3 | 0x5F4 => before.head?.any isHebrew
    -- the dot between Japanese words
    | 0x30FB => (before ++ after).any fun d => d.toNat != 0x30FB && isJapanese d
    | _ =>
      -- digits of the two Arabic forms do not mix
      if isArabicDigit c then !(before ++ after).any isEasternDigit
      else isEasternDigit c && !(before ++ after).any isArabicDigit

/-- Whether every character of a label may stand where it does; the text before it is given from
its end. -/
def fitsBehind (before : List Char) : List Char → Bool
  | [] => true
  | c :: rest => fitsBetween before c rest && fitsBehind (c :: before) rest

/-! ## Hyphens and directions -/

/-- Whether the hyphens of a label stand within it, but not in its third and fourth place. -/
def hyphensFit (label : List Char) : Bool :=
  label.head? != some '-' && label.getLast? != some '-' && (label.drop 2).take 2 != ['-', '-']

/-- Whether a direction belongs to writing from right to left. -/
def isBackward (d : Direction) : Bool :=
  d == .rightToLeft || d == .arabicLetter || d == .arabicNumber

/-- Whether a label is written in one direction.  If anything in it goes from right to left, it
starts with a letter that does, no letter goes the other way, it ends in a letter or digit apart
from marks, and its digits are of one kind. -/
def directionsFit (label : List Char) : Bool :=
  let directions := label.map direction
  !directions.any isBackward ||
    (directions.head?.any (fun d => d == .rightToLeft || d == .arabicLetter) &&
      !directions.contains .leftToRight &&
      (directions.reverse.dropWhile (· == .mark)).head?.any
        (fun d => isBackward d || d == .europeanNumber) &&
      !(directions.contains .arabicNumber && directions.contains .europeanNumber))

/-! ## Labels -/

/-- Whether a text can be a label. -/
def isValid (label : List Char) : Bool :=
  !label.isEmpty && hyphensFit label && !label.head?.any isMark && fitsBehind [] label &&
    isComposed label && directionsFit label

/-- What the ASCII form of another label starts with. -/
def codedMark : List Char := "xn--".toList

/-- The most characters of a label in ASCII. -/
def maximumLength : Nat := 63

/-- Whether an ASCII text is a label or the ASCII form of one. -/
def isValidAscii (label : List Char) : Bool :=
  if codedMark.isPrefixOf label then
    let coded := label.drop codedMark.length
    !coded.isEmpty && coded.getLast? != some '-' && (Punycode.decode? coded).any isValid
  else isValid label

/-- A label in ASCII. -/
def toAscii? (label : List Char) : Option (List Char) :=
  let isAscii := label.all (·.toNat < 128)
  let written := if isAscii then label else codedMark ++ Punycode.encode label
  let fits := if isAscii then isValidAscii label else isValid label
  if fits ∧ written.length ≤ maximumLength then some written else none

end DeskCalculator.Label
