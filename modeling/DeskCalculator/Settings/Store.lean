import DeskCalculator.Json.Reader
import DeskCalculator.Json.Writer
import DeskCalculator.Settings.Basic

/-!
# The settings file

The settings stand in the field `settings` of an object that is kept in a file;
other fields of that object belong to others and are kept.  A file that is
missing, that is not JSON or that holds something other than an object counts as
one with the default settings.  Bytes that are not UTF-8, whole numbers that are
too long to read and too deep a nest of values are failures.

An operation that changes the file gives its result and the store behind it.  It
is not undone when it fails: if something in the object cannot be encoded, the
file ends before it.
-/

namespace DeskCalculator

/-- What is found in the place of the settings file. -/
inductive Store where
  /-- Nothing. -/
  | absent
  /-- A directory. -/
  | directory
  /-- A file with this content. -/
  | file (content : ByteArray)

namespace Store

/-- Why an operation on the store failed. -/
inductive Failure where
  /-- The file is not UTF-8. -/
  | notUnicode
  /-- The file holds a whole number of this many digits. -/
  | tooLong (digits : Nat)
  /-- The file nests lists and objects too deeply. -/
  | tooDeep
  /-- A directory cannot be written to. -/
  | isDirectory
  /-- What was to be written cannot be encoded. -/
  | notEncodable
  /-- The palette to store is none. -/
  | palette (fault : Palette.Fault)

/-- The object that is assumed where there is none. -/
def defaultFields : Json.Fields :=
  [("settings", Settings.toJson {})]

variable [Platform]

/-- The fields of the object in a text. -/
def fieldsOfText (text : String) : Except Failure Json.Fields :=
  match Json.read .settings text with
  | .ok (.object fields) => .ok fields
  | .ok _ | .error .malformed => .ok defaultFields
  | .error (.tooLong digits) => .error (.tooLong digits)
  | .error .tooDeep => .error .tooDeep

/-- The fields of the stored object. -/
def load : Store → Except Failure Json.Fields
  | absent | directory => .ok defaultFields
  | file content =>
    match String.fromUTF8? content with
    | some text => fieldsOfText text
    | none => .error .notUnicode

/-- Writes the fields of an object. -/
def write (store : Store) (fields : Json.Fields) : Except Failure Unit × Store :=
  match store with
  | directory => (.error .isDirectory, store)
  | absent | file _ =>
    let value := Json.object fields
    if value.isWritable then (.ok (), file value.indented.toUTF8)
    else (.error .notEncodable, file value.writtenPart.toUTF8)

/-- The settings among the fields of a stored object. -/
def settingsOf (fields : Json.Fields) : Settings :=
  .ofJson ((fields.get? "settings").getD .null)

/-- The stored settings. -/
def settings (store : Store) : Except Failure Settings := do
  return settingsOf (← store.load)

/-- Changes some settings; gives the new settings and the store behind it. -/
def save (store : Store) (changes : Json.Fields) : Except Failure Settings × Store :=
  match store.load with
  | .error failure => (.error failure, store)
  | .ok fields =>
    let settings := (settingsOf fields).updated changes
    let (written, after) := store.write (fields.set "settings" settings.toJson)
    (written.map fun () => settings, after)

/-- Stores a palette of the user and chooses it. -/
def saveTheme (store : Store) (colours : Json) : Except Failure Settings × Store :=
  match Palette.ofJson colours with
  | .error fault => (.error (.palette fault), store)
  | .ok palette =>
    store.save [("custom_theme", .object palette.toFields), ("theme", .text "custom")]

/-- The store with nothing but the default settings. -/
def clear (store : Store) : Except Failure Unit × Store :=
  store.write defaultFields

end Store

end DeskCalculator
