import DeskCalculator.Json.Basic
import DeskCalculator.Text.Hexadecimal

/-!
# Colour themes

A palette gives a colour to each of the style variables of the page.  There is
a light one, a dark one, and one that the user may supply; the last is taken
only if it is a mapping that has every variable and if all those colours are
written as a number sign with six hexadecimal digits.
-/

namespace DeskCalculator

/-- Style variables with their colours. -/
abbrev Palette := List (String × String)

namespace Palette

/-- The light palette. -/
def light : Palette :=
  [("--bg-primary", "#f3f4f6"), ("--bg-calculator", "#e5e7eb"), ("--bg-display", "#d1d5db"),
    ("--bg-modal", "#ffffff"), ("--text-primary", "#111827"), ("--text-display", "#111827"),
    ("--text-display-secondary", "#6b7280"), ("--border-primary", "#d1d5db"),
    ("--btn-default-bg", "#d1d5db"), ("--btn-default-bg-hover", "#9ca3af"),
    ("--btn-default-text", "#111827"), ("--btn-operator-bg", "#fb923c"),
    ("--btn-operator-bg-hover", "#f97316"), ("--btn-operator-text", "#ffffff"),
    ("--btn-function-bg", "#d1d5db"), ("--btn-function-bg-hover", "#9ca3af"),
    ("--btn-function-text", "#111827"), ("--btn-solve-bg", "#60a5fa"),
    ("--btn-solve-bg-hover", "#3b82f6"), ("--btn-solve-text", "#ffffff"),
    ("--btn-clear-bg", "#f87171"), ("--btn-clear-bg-hover", "#ef4444"),
    ("--btn-clear-text", "#ffffff"), ("--btn-equals-bg", "#4ade80"),
    ("--btn-equals-bg-hover", "#22c55e"), ("--btn-equals-text", "#ffffff")]

/-- The dark palette. -/
def dark : Palette :=
  [("--bg-primary", "#111827"), ("--bg-calculator", "#1f2937"), ("--bg-display", "#374151"),
    ("--bg-modal", "#1f2937"), ("--text-primary", "#f9fafb"), ("--text-display", "#f9fafb"),
    ("--text-display-secondary", "#9ca3af"), ("--border-primary", "#4b5563"),
    ("--btn-default-bg", "#4b5563"), ("--btn-default-bg-hover", "#6b7280"),
    ("--btn-default-text", "#ffffff"), ("--btn-operator-bg", "#f97316"),
    ("--btn-operator-bg-hover", "#ea580c"), ("--btn-operator-text", "#ffffff"),
    ("--btn-function-bg", "#4b5563"), ("--btn-function-bg-hover", "#6b7280"),
    ("--btn-function-text", "#ffffff"), ("--btn-solve-bg", "#3b82f6"),
    ("--btn-solve-bg-hover", "#2563eb"), ("--btn-solve-text", "#ffffff"),
    ("--btn-clear-bg", "#ef4444"), ("--btn-clear-bg-hover", "#dc2626"),
    ("--btn-clear-text", "#ffffff"), ("--btn-equals-bg", "#22c55e"),
    ("--btn-equals-bg-hover", "#16a34a"), ("--btn-equals-text", "#ffffff")]

/-- The style variables, in order. -/
def styleNames : List String :=
  dark.map Prod.fst

/-- A palette as the fields of an object. -/
def toFields (palette : Palette) : Json.Fields :=
  palette.map fun (name, colour) => (name, .text colour)

/-- Whether a character is a hexadecimal digit. -/
def isHexadecimal (c : Char) : Bool :=
  (Text.hexadecimalValue? c).isSome

/-- Whether a text is a colour: a number sign, six hexadecimal digits, and at most a line feed
behind them. -/
def isColour (text : List Char) : Bool :=
  match text with
  | '#' :: rest =>
    (rest.take 6).length == 6 && (rest.take 6).all isHexadecimal &&
      (rest.drop 6 == [] || rest.drop 6 == ['\n'])
  | _ => false

/-- Why a value is no palette. -/
inductive Fault where
  /-- It is not an object. -/
  | notAMapping
  /-- It lacks some variables. -/
  | missing (names : List String)
  /-- It gives some variables something other than a colour. -/
  | notColours (names : List String)
  deriving DecidableEq, Repr

/-- The message of a fault. -/
def Fault.message : Fault → String
  | notAMapping => "Custom theme must be a mapping of CSS variables to colours."
  | missing names => "Custom theme is missing: " ++ String.intercalate ", " names
  | notColours names => "Not a #rrggbb colour: " ++ String.intercalate ", " names

/-- The colour that the fields give to a variable. -/
def colour? (fields : Json.Fields) (name : String) : Option String :=
  match fields.get? name with
  | some (.text text) => if isColour text.toList then some text else none
  | _ => none

/-- The palette that the fields of an object describe.  Anything but the style variables is left
out. -/
def ofFields (fields : Json.Fields) : Except Fault Palette :=
  let absent := styleNames.filter fun name => (fields.get? name).isNone
  let wrong := styleNames.filter fun name => (colour? fields name).isNone
  if absent ≠ [] then .error (.missing absent)
  else if wrong ≠ [] then .error (.notColours wrong)
  else .ok (styleNames.filterMap fun name => (colour? fields name).map (name, ·))

/-- The palette that a value describes. -/
def ofJson (value : Json) : Except Fault Palette :=
  match value with
  | .object fields => ofFields fields
  | _ => .error .notAMapping

/-- The fields of the palette of a theme.  The custom theme shows the user's palette, if there is
one with something in it; a theme of any other name is dark. -/
def ofTheme (theme : String) (custom : Option Json.Fields) : Json.Fields :=
  match theme, custom with
  | "custom", some (first :: rest) => first :: rest
  | "light", _ => light.toFields
  | _, _ => dark.toFields

end Palette

end DeskCalculator
