import Workflow.Value.Basic

/-!
# JSON as written

What the text of a JSON document says before its fields are put in order: fields stand as they were
written, repetitions included, because a typed part of a document refuses a repeated field while a
free value takes the last one.

A part may be well-formed text and still have no value: a number too large for a double, a string
with half a surrogate pair, a list or object nested too deep.  Such a part is `unreadable`; it does
no harm where a reader passes over it.
-/

namespace Workflow

/-- A JSON value as written. -/
inductive Json
  | null
  | bool (value : Bool)
  | number (value : Number)
  | string (value : String)
  | list (items : List Json)
  | object (fields : List (String × Json))
  | unreadable
  deriving Repr, Inhabited

namespace Json

mutual

/-- The state tree that is written, unless a part of it is unreadable. -/
def toValue? : Json → Option Value
  | .null => some .null
  | .bool value => some (.bool value)
  | .number value => some (.number value)
  | .string value => some (.string value)
  | .list items => (itemsToValues? items).map .list
  | .object fields => (fieldsToTable? [] fields).map .object
  | .unreadable => none

def itemsToValues? : List Json → Option (List Value)
  | [] => some []
  | item :: rest =>
    match toValue? item, itemsToValues? rest with
    | some value, some values => some (value :: values)
    | _, _ => none

/-- The table with the given fields added; of a repeated field the last counts. -/
def fieldsToTable? (table : List (String × Value)) :
    List (String × Json) → Option (List (String × Value))
  | [] => some table
  | (key, field) :: rest =>
    match toValue? field with
    | some value => fieldsToTable? (Keyed.insert key value table) rest
    | none => none

end

mutual

/-- A state tree as it would be written, its fields in the order of their keys. -/
def ofValue : Value → Json
  | .null => .null
  | .bool value => .bool value
  | .number value => .number value
  | .string value => .string value
  | .list items => .list (ofItems items)
  | .object fields => .object (ofFields fields)

def ofItems : List Value → List Json
  | [] => []
  | item :: rest => ofValue item :: ofItems rest

def ofFields : List (String × Value) → List (String × Json)
  | [] => []
  | (key, value) :: rest => (key, ofValue value) :: ofFields rest

end

def isReadable (json : Json) : Bool :=
  json.toValue?.isSome

end Json

end Workflow
