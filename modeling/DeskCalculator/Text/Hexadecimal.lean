/-!
# Hexadecimal numbers

How a number is written in hexadecimal with a least number of digits, and what a
single digit, in letters of either case, stands for.
-/

namespace DeskCalculator.Text

/-- A number in hexadecimal, filled with zeros on the left to at least `width` digits. -/
def hexadecimal (width : Nat) (number : Nat) : List Char :=
  let digits := Nat.toDigits 16 number
  List.replicate (width - digits.length) '0' ++ digits

/-- The value of a hexadecimal digit. -/
def hexadecimalValue? (c : Char) : Option Nat :=
  if '0' ≤ c ∧ c ≤ '9' then some (c.toNat - '0'.toNat)
  else if 'a' ≤ c ∧ c ≤ 'f' then some (c.toNat - 'a'.toNat + 10)
  else if 'A' ≤ c ∧ c ≤ 'F' then some (c.toNat - 'A'.toNat + 10)
  else none

end DeskCalculator.Text
