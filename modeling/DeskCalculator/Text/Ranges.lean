/-!
# Sets of characters as ranges of code points

The classes of characters that the calculator tells apart are those of the
Unicode character database.  Beyond ASCII each is kept as a list of closed
ranges, and membership is a search through that list.
-/

namespace DeskCalculator.Text

/-- Whether `code` lies in one of the closed ranges. -/
def inRanges (ranges : List (Nat × Nat)) (code : Nat) : Bool :=
  ranges.any fun range => range.1 ≤ code && code ≤ range.2

theorem inRanges_eq_true_iff {ranges : List (Nat × Nat)} {code : Nat} :
    inRanges ranges code = true ↔ ∃ range ∈ ranges, range.1 ≤ code ∧ code ≤ range.2 := by
  simp [inRanges]

end DeskCalculator.Text
