import DeskCalculator.Text.Surrogate

/-!
# JSON values

Values as they are exchanged with files, clients and the remote solver.  Whole
numbers are told apart from floats, which are written with a point or an
exponent, and the fields of an object keep their order.
-/

namespace DeskCalculator

/-- A JSON value. -/
inductive Json where
  | null
  | bool (value : Bool)
  | integer (value : Int)
  | real (value : Float)
  | text (value : String)
  | list (items : List Json)
  | object (fields : List (String × Json))
  deriving Inhabited

namespace Json

/-- The fields of an object, in order. -/
abbrev Fields := List (String × Json)

/-- Gives a field a value: in its place if there is one of that name, at the end otherwise. -/
def Fields.set (fields : Fields) (key : String) (value : Json) : Fields :=
  match fields with
  | [] => [(key, value)]
  | (name, old) :: rest =>
    if name = key then (key, value) :: rest else (name, old) :: Fields.set rest key value

/-- The value of a field. -/
def Fields.get? (fields : Fields) (key : String) : Option Json :=
  fields.lookup key

/-- The fields of `changes` put into `fields` one after the other. -/
def Fields.update (fields changes : Fields) : Fields :=
  changes.foldl (fun done (key, value) => done.set key value) fields

/-- The fields of an object; any other value has none. -/
def fields? : Json → Option Fields
  | object fields => some fields
  | _ => none

/-- A string value. -/
def text? : Json → Option String
  | text value => some value
  | _ => none

/-- The value of a field of an object. -/
def field? (value : Json) (key : String) : Option Json :=
  value.fields?.bind (Fields.get? · key)

/-- An optional string, where its absence is `null`. -/
def ofText? (value : Option String) : Json :=
  value.elim null text

section

variable [Platform]

mutual

/-- Whether a value can be sent: every float in it is finite, and every string can be encoded. -/
def isSendable : Json → Bool
  | real value => value.isFinite
  | text value => Text.isEncodable value.toList
  | list items => areSendable items
  | object fields => fieldsAreSendable fields
  | null | bool _ | integer _ => true

/-- Whether some values can all be sent. -/
def areSendable : List Json → Bool
  | [] => true
  | item :: rest => isSendable item && areSendable rest

/-- Whether some fields can all be sent, with their names. -/
def fieldsAreSendable : List (String × Json) → Bool
  | [] => true
  | (key, value) :: rest =>
    Text.isEncodable key.toList && isSendable value && fieldsAreSendable rest

end

end

@[simp] theorem Fields.get?_nil (key : String) : Fields.get? [] key = none := rfl

theorem Fields.get?_cons (name key : String) (value : Json) (rest : Fields) :
    Fields.get? ((name, value) :: rest) key =
      if key = name then some value else Fields.get? rest key := by
  rw [Fields.get?, List.lookup_cons]
  by_cases h : key = name
  · simp [h]
  · rw [beq_false_of_ne h, if_neg h, Fields.get?]

/-- A field that has just been set has the new value, every other field the old one. -/
theorem Fields.get?_set (fields : Fields) (key other : String) (value : Json) :
    (fields.set key value).get? other =
      if other = key then some value else fields.get? other := by
  induction fields with
  | nil => simp [Fields.set, Fields.get?_cons]
  | cons field rest ih =>
      obtain ⟨name, old⟩ := field
      by_cases hname : name = key
      · subst hname
        by_cases hother : other = name <;> simp [Fields.set, Fields.get?_cons, hother]
      · simp only [Fields.set, hname, if_false, Fields.get?_cons, ih]
        by_cases hother : other = name
        · subst hother
          simp [hname]
        · simp [hother]

end Json

end DeskCalculator
