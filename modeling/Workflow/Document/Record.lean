import Workflow.Error
import Workflow.Json.Basic

/-!
# Reading typed objects

A typed object is written as a JSON object, whose unknown fields are passed over, or as the list of
its fields in the order of their declaration, from whose end fields with a default may be left off.
A field written twice, also once under each of two names, is a fault.

Fields are read independently of each other, and of several faults the one written first is
reported: `Checked` carries the place of a fault, and its combination keeps the earlier one.
-/

namespace Workflow

/-- What is read from JSON, or why it is not there. -/
abbrev Reading (α : Type) := Except DocumentFault α

namespace Reading

def string : Json → Reading String
  | .string value => .ok value
  | _ => .error .shape

def bool : Json → Reading Bool
  | .bool value => .ok value
  | _ => .error .shape

/-- A free state tree, of which a repeated field counts the last time. -/
def value (json : Json) : Reading Value :=
  match json.toValue? with
  | some value => .ok value
  | none => .error .shape

/-- A natural number below `2 ^ 64`. -/
def count : Json → Reading Nat
  | .number number =>
    match number.toNat? with
    | some n => if n < Nat.pow 2 64 then .ok n else .error .shape
    | none => .error .shape
  | _ => .error .shape

variable {α β : Type}

def nullable (read : Json → Reading α) : Json → Reading (Option α)
  | .null => .ok none
  | json => (read json).map some

def list (read : Json → Reading α) : Json → Reading (List α)
  | .list items => items.mapM read
  | _ => .error .shape

/-- A table of what `read` reads; of a repeated name the last counts. -/
def table (read : Json → Reading α) : Json → Reading (List (String × α))
  | .object fields => do
    let entries ← fields.mapM fun field => (read field.2).map ((field.1, ·))
    return Keyed.ofList entries
  | _ => .error .shape

end Reading

/-- A typed object as written: its fields in order, and whether it is a list longer than the
declaration. -/
structure Record where
  fields : List (String × Json)
  surplus : Bool

/-- What is read from some fields of a record, or the earliest fault among them and its place. -/
def Checked (α : Type) := Except (Nat × DocumentFault) α

namespace Checked

variable {α β : Type}

/-- Both results, or the fault that is written first. -/
def pair : Checked (α → β) → Checked α → Checked β
  | .ok f, .ok x => .ok (f x)
  | .error fault, .ok _ => .error fault
  | .ok _, .error fault => .error fault
  | .error left, .error right => .error (if left.1 ≤ right.1 then left else right)

instance : Applicative Checked where
  pure x := .ok x
  seq f x := pair f (x ())

end Checked

namespace Record

variable {α : Type}

/-- The record that `json` writes, `names` being its fields in the order of their declaration. -/
def read (names : List String) : Json → Reading Record
  | .object fields => .ok ⟨fields, false⟩
  | .list items => .ok ⟨names.zip items, names.length < items.length⟩
  | _ => .error .shape

/-- The places at which a field stands under one of its names, with what is written there. -/
def occurrences (record : Record) (names : List String) : List (Nat × Json) :=
  record.fields.zipIdx.filterMap fun ((name, json), place) =>
    if names.contains name then some (place, json) else none

/-- A field that may be absent. -/
def field? (record : Record) (names : List String) (read : Json → Reading α) :
    Checked (Option α) :=
  match record.occurrences names with
  | [] => .ok none
  | (place, json) :: rest =>
    match read json, rest with
    | .error fault, _ => .error (place, fault)
    | .ok value, [] => .ok (some value)
    | .ok _, (again, _) :: _ => .error (again, .shape)

/-- A field that stands for `fallback` where it is absent. -/
def field (record : Record) (names : List String) (read : Json → Reading α) (fallback : α) :
    Checked α :=
  match record.field? names read with
  | .ok value => .ok (value.getD fallback)
  | .error fault => .error fault

/-- A field that must be there. Its absence shows behind the last field. -/
def required (record : Record) (names : List String) (read : Json → Reading α) : Checked α :=
  match record.field? names read with
  | .ok (some value) => .ok value
  | .ok none => .error (record.fields.length, .shape)
  | .error fault => .error fault

/-- A field that may be absent or null. -/
def optional (record : Record) (names : List String) (read : Json → Reading α) :
    Checked (Option α) :=
  record.field names (Reading.nullable read) none

/-- What was read from a record, if it is no longer than its declaration. -/
def finish (record : Record) : Checked α → Reading α
  | .ok value => if record.surplus then .error .shape else .ok value
  | .error (_, fault) => .error fault

end Record

end Workflow
