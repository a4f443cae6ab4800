import DeskCalculator.Json.Basic

/-!
# Reading parts of a request

A part of a request either has a value or does not fit.  Several parts are read
independently of each other, so that all the misfits of a request are known: the
response to a request that does not fit quotes each of them.
-/

namespace DeskCalculator.Service

/-- What comes of reading a part of a request: a value, or the misfits found in it. -/
abbrev Reading (α : Type) := Except (List Json) α

namespace Reading

variable {α β : Type}

/-- A part that fits if it has a value of the expected type. -/
def ofOption (part : Json) (value : Option α) : Reading α :=
  match value with
  | some value => .ok value
  | none => .error [part]

/-- Two parts, with the misfits of both. -/
def and (first : Reading α) (second : Reading β) : Reading (α × β) :=
  match first, second with
  | .ok a, .ok b => .ok (a, b)
  | .error misfits, .ok _ => .error misfits
  | .ok _, .error misfits => .error misfits
  | .error misfits, .error others => .error (misfits ++ others)

/-- Any number of parts, with the misfits of all. -/
def all : List (Reading α) → Reading (List α)
  | [] => .ok []
  | part :: rest => (part.and (all rest)).map fun (value, values) => value :: values

end Reading

/-- What a field may hold: how a value of type `α` is read from it. -/
abbrev FieldType (α : Type) := Json → Reading α

namespace FieldType

variable {α : Type}

/-! ## Texts and collections -/

/-- A string. -/
def text : FieldType String := fun part =>
  .ofOption part part.text?

/-- One of several strings. -/
def oneOf (choices : List String) : FieldType String := fun part =>
  .ofOption part (part.text?.filter (· ∈ choices))

/-- A list of values. -/
def listOf (item : FieldType α) : FieldType (List α) := fun part =>
  match part with
  | .list items => .all (items.map item)
  | other => .error [other]

/-- An object whose fields hold strings. -/
def texts : FieldType (List (String × String)) := fun part =>
  match part with
  | .object fields => .all (fields.map fun (name, value) => (text value).map (name, ·))
  | other => .error [other]

/-! ## Fields of an object -/

/-- A field that must be there; where it is not, the object is the misfit. -/
def required (type : FieldType α) (fields : Json.Fields) (key : String) : Reading α :=
  match fields.get? key with
  | some part => type part
  | none => .error [.object fields]

/-- A field that has a default. -/
def withDefault (type : FieldType α) (fields : Json.Fields) (key : String) (otherwise : α) :
    Reading α :=
  match fields.get? key with
  | some part => type part
  | none => .ok otherwise

/-- A field that may be missing or `null`. -/
def optional (type : FieldType α) (fields : Json.Fields) (key : String) : Reading (Option α) :=
  match fields.get? key with
  | none | some .null => .ok none
  | some part => (type part).map some

/-- An object, whose fields are read together. -/
def record (ofFields : Json.Fields → Reading α) : FieldType α := fun part =>
  match part with
  | .object fields => ofFields fields
  | other => .error [other]

end FieldType

end DeskCalculator.Service
