import DeskCalculator.Decimal.Shortest

/-!
# How a float is written

A float is written by its shortest digits, either positionally or with an
exponent.  A `Layout` says which magnitudes are written positionally and how
whole numbers, exponents and the values without digits look.
-/

namespace DeskCalculator

/-- The decisions of one way to write floats. -/
structure Layout where
  /-- The least `Decimal.pointPosition` that is written positionally. -/
  lowest : Int
  /-- The greatest `Decimal.pointPosition` that is written positionally. -/
  highest : Int
  /-- What follows the digits of a whole number. -/
  wholeTail : String
  /-- The least number of digits of an exponent. -/
  exponentWidth : Nat
  /-- What is written for either zero, given its sign bit. -/
  zeroText : Bool → String
  /-- What is written for infinity, before which a minus may stand. -/
  infinityText : String
  /-- What is written for NaN. -/
  nanText : String

namespace Layout

/-- A run of zeros. -/
def zeros (count : Int) : List Char :=
  List.replicate count.toNat '0'

/-- Digits written positionally, with the point behind `point` of them. -/
def positional (layout : Layout) (digits : List Char) (point : Int) : List Char :=
  if point ≤ 0 then '0' :: '.' :: (zeros (-point) ++ digits)
  else if digits.length ≤ point then
    digits ++ zeros (point - digits.length) ++ layout.wholeTail.toList
  else digits.take point.toNat ++ '.' :: digits.drop point.toNat

/-- Digits written with one of them before the point, and an exponent. -/
def scientific (layout : Layout) (digits : List Char) (point : Int) : List Char :=
  let exponent := point - 1
  let power := Nat.toDigits 10 exponent.natAbs
  let fraction := if digits.length ≤ 1 then [] else '.' :: digits.drop 1
  let sign := if exponent < 0 then '-' else '+'
  digits.take 1 ++ fraction ++
    'e' :: sign :: (zeros (layout.exponentWidth - power.length) ++ power)

/-- A magnitude that is neither zero nor infinite, by its digits. -/
def magnitude (layout : Layout) (d : Decimal) : List Char :=
  if layout.lowest ≤ d.pointPosition ∧ d.pointPosition ≤ layout.highest then
    layout.positional d.digits d.pointPosition
  else layout.scientific d.digits d.pointPosition

/-- The text of a float. -/
def write (layout : Layout) (v : Float) : String :=
  if v.isNaN then layout.nanText
  else
    let minus := if v < 0 then "-" else ""
    if v.isInf then minus ++ layout.infinityText
    else if v == 0 then layout.zeroText (signBit v)
    else minus ++ String.ofList (layout.magnitude (Decimal.shortest v))

/-- The layout of messages and of stored numbers: whole numbers keep one zero behind the point,
and exponents have two digits. -/
def full : Layout where
  lowest := -3
  highest := 16
  wholeTail := ".0"
  exponentWidth := 2
  zeroText negative := if negative then "-0.0" else "0.0"
  infinityText := "inf"
  nanText := "nan"

end Layout

end DeskCalculator
