import DeskCalculator.Platform

/-!
# Halves of surrogate pairs

Where characters are given by units of two bytes, one beyond the first plane is a
pair of surrogates.  A surrogate that has lost the other half of its pair stands
for no character.  A text may hold one nevertheless, and only when it is to be
encoded it turns out that it cannot be.  Here every such half has a character of
its own in its place, one of those that the platform sets apart for them.
-/

namespace DeskCalculator.Text

/-- Whether a unit is the first half of a surrogate pair. -/
def isHigh (unit : Nat) : Bool := 0xD800 ≤ unit && unit < 0xDC00

/-- Whether a unit is the second half of a surrogate pair. -/
def isLow (unit : Nat) : Bool := 0xDC00 ≤ unit && unit < 0xE000

/-- The code point that a surrogate pair stands for. -/
def joined (high low : Nat) : Nat := 0x10000 + 0x400 * (high - 0xD800) + (low - 0xDC00)

variable [Platform]

/-- What takes the place of half of a surrogate pair. -/
def half (unit : Nat) : Char := Char.ofNat (Platform.firstHalf + (unit - 0xD800))

/-- Whether a character takes the place of half of a surrogate pair. -/
def isHalf (c : Char) : Bool :=
  Platform.firstHalf ≤ c.toNat && c.toNat < Platform.firstHalf + 0x800

/-- The character of a code point, where a surrogate is half of a pair. -/
def characterOf (code : Nat) : Char :=
  if isHigh code || isLow code then half code else Char.ofNat code

/-- Whether a text can be encoded: it holds no half of a pair. -/
def isEncodable (text : List Char) : Bool :=
  text.all fun c => !isHalf c

end DeskCalculator.Text
