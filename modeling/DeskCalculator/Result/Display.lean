import DeskCalculator.Decimal.Layout

/-!
# How a result is shown

A result is shown by its shortest digits: positionally from a millionth up to
`1e21`, otherwise with an exponent of as few digits as it needs.  Whole numbers
have no decimal point, and the sign of zero does not show.
-/

namespace DeskCalculator

/-- The layout of the display. -/
def displayLayout : Layout where
  lowest := -5
  highest := 21
  wholeTail := ""
  exponentWidth := 1
  zeroText _ := "0"
  infinityText := "Infinity"
  nanText := "NaN"

/-- The text of a number on the display. -/
def displayText (v : Float) : String :=
  displayLayout.write v

end DeskCalculator
