import DeskCalculator.Text.Ranges

/-!
# Blank characters

The characters that count as white space: the ASCII blanks, the four
information separators, the next-line control and the Unicode spaces and line
separators.  `trim` cuts them off both ends of a text.
-/

namespace DeskCalculator.Text

/-- The blank characters, as closed ranges of code points. -/
def blankRanges : List (Nat × Nat) := [
  (0x9, 0xD), (0x1C, 0x20), (0x85, 0x85), (0xA0, 0xA0), (0x1680, 0x1680), (0x2000, 0x200A),
  (0x2028, 0x2029), (0x202F, 0x202F), (0x205F, 0x205F), (0x3000, 0x3000)]

/-- Whether a character is white space. -/
def isBlank (c : Char) : Bool :=
  inRanges blankRanges c.toNat

/-- Whether a text holds nothing but blanks. -/
def isBlankText (text : List Char) : Bool :=
  text.all isBlank

/-- The text without the blanks at its start. -/
def trimStart (text : List Char) : List Char :=
  text.dropWhile isBlank

/-- The text without the blanks at either end. -/
def trim (text : List Char) : List Char :=
  (trimStart (trimStart text).reverse).reverse

/-- The string without the blanks at either end. -/
def trimString (text : String) : String :=
  String.ofList (trim text.toList)

end DeskCalculator.Text
