import DeskCalculator.Result.Rounding
import DeskCalculator.Text.Numeral
import DeskCalculator.Theme

/-!
# Settings

The settings are the theme, the user's own palette and the precision of
results.  They are kept as a JSON object, and whatever object or other value is
found in its place, `Settings.ofJson` makes settings of it: each part that is
missing or makes no sense is replaced by its default, and the custom theme is
only chosen together with a palette.
-/

namespace DeskCalculator

/-! ## Precision -/

namespace Precision

/-- The most decimal places that a setting may ask for. -/
def maximum : Int := 8

/-- A number of places, if a setting may ask for it. -/
def ofInt (places : Int) : Precision :=
  if 0 ≤ places ∧ places ≤ maximum then some places else none

/-- The precision that a text asks for; a text that is no whole number asks for none. -/
def ofText (text : String) : Precision :=
  match Text.readInteger (Text.trim text.toList) with
  | .ok places => ofInt places
  | .error _ => none

/-- The precision that a stored value asks for.  Only whole numbers and texts ask for one. -/
def ofJson : Json → Precision
  | .integer places => ofInt places
  | .text text => ofText text
  | _ => none

/-- A precision as it is stored. -/
def toSetting : Precision → String
  | none => "None"
  | some places => toString places

end Precision

/-! ## Settings -/

/-- The themes to choose from. -/
inductive Theme where
  | light
  | dark
  | custom
  deriving DecidableEq, Repr

/-- The name of a theme. -/
def Theme.name : Theme → String
  | light => "light"
  | dark => "dark"
  | custom => "custom"

/-- The settings of the calculator. -/
structure Settings where
  /-- The theme that is shown. -/
  theme : Theme := .dark
  /-- The user's own palette. -/
  customTheme : Option Palette := none
  /-- The precision of results. -/
  precision : Precision := none

namespace Settings

/-- The user's palette in the fields of stored settings. -/
def customOf (fields : Json.Fields) : Option Palette :=
  match fields.get? "custom_theme" with
  | some value => (Palette.ofJson value).toOption
  | none => none

/-- The theme in the fields of stored settings, where `hasCustom` tells whether there is a palette
for the custom theme. -/
def themeOf (fields : Json.Fields) (hasCustom : Bool) : Theme :=
  match fields.get? "theme" with
  | some (.text "light") => .light
  | some (.text "custom") => if hasCustom then .custom else .dark
  | _ => .dark

/-- The precision in the fields of stored settings. -/
def precisionOf (fields : Json.Fields) : Precision :=
  Precision.ofJson ((fields.get? "rounding_precision").getD .null)

/-- The settings that the fields of an object stand for. -/
def ofFields (fields : Json.Fields) : Settings :=
  let customTheme := customOf fields
  { theme := themeOf fields customTheme.isSome, customTheme, precision := precisionOf fields }

/-- The settings that a stored value stands for. -/
def ofJson (stored : Json) : Settings :=
  match stored with
  | .object fields => ofFields fields
  | _ => {}

/-- The settings as the fields of an object. -/
def toFields (settings : Settings) : Json.Fields :=
  [("theme", .text settings.theme.name),
    ("custom_theme", settings.customTheme.elim .null fun palette => .object palette.toFields),
    ("rounding_precision", .text settings.precision.toSetting)]

/-- The settings as they are stored. -/
def toJson (settings : Settings) : Json :=
  .object settings.toFields

/-- The settings after changes to some of their fields. -/
def updated (settings : Settings) (changes : Json.Fields) : Settings :=
  ofFields (Json.Fields.update settings.toFields changes)

/-- The fields of the palette to show. -/
def palette (settings : Settings) : Json.Fields :=
  Palette.ofTheme settings.theme.name (settings.customTheme.map Palette.toFields)

end Settings

end DeskCalculator
