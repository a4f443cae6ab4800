import DeskCalculator.Entry.Canonical
import DeskCalculator.Token
import Mathlib.Tactic

/-!
# The words of an entry

An entry that is typed in the usual way is a row of words: literals, perhaps
with a percent sign or a factorial sign, the two constants, names, and marks.
The same words, with the power sign `**` and with marks between two blanks, make
up every text that the passes towards the canonical form produce.
-/

namespace DeskCalculator.Surface

open Text

/-! ## Words -/

/-- A plain literal: ASCII digits, perhaps with a point and more of them. -/
structure Literal where
  /-- The digits before the point. -/
  whole : List Char
  /-- The digits behind the point; without any there is no point. -/
  fraction : List Char
  whole_ne_nil : whole ≠ []
  isDigit_whole : ∀ c ∈ whole, c.isDigit = true
  isDigit_fraction : ∀ c ∈ fraction, c.isDigit = true

/-- The characters of a literal. -/
def Literal.chars (n : Literal) : List Char :=
  n.whole ++ if n.fraction = [] then [] else '.' :: n.fraction

/-- The float nearest to the number that a literal denotes. -/
def Literal.value (n : Literal) : Float :=
  (⟨digitsValue (n.whole ++ n.fraction), -n.fraction.length⟩ : Decimal).toFloat

/-- The literal `100`. -/
def Literal.hundred : Literal :=
  ⟨['1', '0', '0'], [], by simp, List.all_eq_true.1 rfl, by simp⟩

/-- A name: ASCII letters, but not the letter of the constant alone. -/
structure Name where
  /-- The letters of the name. -/
  letters : List Char
  letters_ne_nil : letters ≠ []
  isAlpha_letters : ∀ c ∈ letters, c.isAlpha = true
  letters_ne_euler : letters ≠ ['e']

/-- The canonical name of the circle number. -/
def Name.circle : Name := ⟨['P', 'I'], by simp, List.all_eq_true.1 rfl, by simp⟩

/-- The canonical name of the base of the natural logarithm. -/
def Name.euler : Name := ⟨['E'], by simp, List.all_eq_true.1 rfl, by simp⟩

/-- The name of the factorial function. -/
def Name.factorial : Name := ⟨"factorial".toList, by simp, List.all_eq_true.1 rfl, by simp⟩

/-- A `+` or a `-`. -/
inductive Sign where
  | plus
  | minus
  deriving DecidableEq

/-- The character of a sign. -/
def Sign.char : Sign → Char
  | plus => '+'
  | minus => '-'

/-- A mark between operands or around them. -/
inductive Mark where
  | sign (s : Sign)
  | star
  | slash
  /-- The power sign as it is typed. -/
  | caret
  /-- The power sign of the canonical notation. -/
  | power
  | opening
  | closing
  | comma
  deriving DecidableEq

/-- The characters of a mark. -/
def Mark.chars : Mark → List Char
  | sign s => [s.char]
  | star => ['*']
  | slash => ['/']
  | caret => ['^']
  | power => ['*', '*']
  | opening => ['(']
  | closing => [')']
  | comma => [',']

/-- A word of an entry, or of one of the texts that it is turned into. -/
inductive Word where
  | literal (n : Literal)
  | percentage (n : Literal)
  | factorial (n : Literal)
  | circle
  | euler
  | name (n : Name)
  | mark (m : Mark)
  /-- A mark between two blanks. -/
  | spaced (m : Mark)

/-- The characters of a word. -/
def Word.chars : Word → List Char
  | literal n => n.chars
  | percentage n => n.chars ++ ['%']
  | factorial n => n.chars ++ ['!']
  | circle => ['π']
  | euler => ['e']
  | name n => n.letters
  | mark m => m.chars
  | spaced m => ' ' :: (m.chars ++ [' '])

/-- The text of a row of words. -/
def text (words : List Word) : List Char := words.flatMap Word.chars

end DeskCalculator.Surface
