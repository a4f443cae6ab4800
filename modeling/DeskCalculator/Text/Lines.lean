/-!
# Lines of a text

A line ends at a line feed, a carriage return, the two together, a vertical
tab, a form feed, one of the three larger information separators, the
next-line control, or the Unicode line and paragraph separators.  The end
belongs to no line, and a text that stops behind a line end has no empty last
line.
-/

namespace DeskCalculator.Text

/-- Whether a character ends a line. -/
def isLineEnd (c : Char) : Bool :=
  (0xA ≤ c.toNat && c.toNat ≤ 0xD) || (0x1C ≤ c.toNat && c.toNat ≤ 0x1E) ||
    c.toNat == 0x85 || c.toNat == 0x2028 || c.toNat == 0x2029

/-- The lines of a text, without their ends. -/
def lines : List Char → List (List Char)
  | [] => []
  | '\r' :: '\n' :: rest => [] :: lines rest
  | c :: rest =>
    if isLineEnd c then [] :: lines rest
    else
      match lines rest with
      | [] => [[c]]
      | line :: others => (c :: line) :: others

/-- The lines of a text that have ended, when more may follow it.  A carriage return at its end may
be the first half of an end. -/
def finishedLines (text : List Char) : List (List Char) :=
  let known := if text.getLast? = some '\r' then text.dropLast else text
  if known.getLast?.any isLineEnd then lines known else (lines known).dropLast

end DeskCalculator.Text
