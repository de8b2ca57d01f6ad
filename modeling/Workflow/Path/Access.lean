import Workflow.Path.Reader
import Workflow.Value.Basic

/-!
# Reading and writing at a path

`Path.values` gives the values that a path leads to, in the order of the tree, and `Path.write`
puts a value there.  A write goes through fields that are missing or null by making objects of
them; it never lengthens a list, and a wildcard needs something to expand into.
-/

namespace Workflow

namespace Path

/-- The values to which a path leads, in the order of the tree. -/
def values : Path → Value → List Value
  | [], tree => [tree]
  | .field name :: path, tree =>
    match tree.field? name with
    | some child => values path child
    | none => []
  | .index position :: path, tree =>
    match tree with
    | .list items =>
      match items[position]? with
      | some child => values path child
      | none => []
    | _ => []
  | .wildcard :: path, tree =>
    match tree with
    | .list items => items.flatMap (values path)
    | .object fields => fields.flatMap fun (_, child) => values path child
    | _ => []

/-- Applies `change` to every item, from the first on, until one refuses. -/
def mapItems (change : Value → Except WriteFault Value) :
    List Value → Except WriteFault (List Value)
  | [] => .ok []
  | item :: rest =>
    match change item with
    | .error fault => .error fault
    | .ok item => (mapItems change rest).map (item :: ·)

/-- Applies `change` to the value of every field, from the first on, until one refuses. -/
def mapFields (change : Value → Except WriteFault Value) :
    List (String × Value) → Except WriteFault (List (String × Value))
  | [] => .ok []
  | (key, child) :: rest =>
    match change child with
    | .error fault => .error fault
    | .ok child => (mapFields change rest).map ((key, child) :: ·)

/-- The tree with `new` at every place to which the path leads. -/
def write (new : Value) : Path → Value → Except WriteFault Value
  | [], _ => .ok new
  | .field name :: path, tree =>
    match tree with
    | .null => (write new path .null).map fun child => .object [(name, child)]
    | .object fields =>
      (write new path ((Keyed.get? name fields).getD .null)).map fun child =>
        .object (Keyed.insert name child fields)
    | other => .error (.fieldOn name other.kindName)
  | .index position :: path, tree =>
    match tree with
    | .list items =>
      match items[position]? with
      | some child => (write new path child).map fun child => .list (items.set position child)
      | none => .error (.indexOutOfRange position items.length)
    | other => .error (.indexInto other.kindName)
  | .wildcard :: path, tree =>
    match tree with
    | .list (item :: rest) => (mapItems (write new path) (item :: rest)).map .list
    | .object (field :: rest) => (mapFields (write new path) (field :: rest)).map .object
    | other => .error (.nothingToExpand other.kindName)

end Path

namespace Value

def valuesAt (tree : Value) (path : String) : Except Error (List Value) :=
  (Path.read path).map fun segments => Path.values segments tree

/-- The first value to which the path text leads, if any. -/
def valueAt? (tree : Value) (path : String) : Except Error (Option Value) :=
  (tree.valuesAt path).map List.head?

/-- The first value to which the path text leads; there must be one. -/
def valueAt (tree : Value) (path : String) : Except Error Value :=
  match tree.valueAt? path with
  | .ok (some value) => .ok value
  | .ok none => .error (.nothingAt path)
  | .error error => .error error

def setAt (tree : Value) (path : String) (new : Value) : Except Error Value :=
  match Path.read path with
  | .ok segments => (Path.write new segments tree).mapError (.cannotWrite path)
  | .error error => .error error

end Value

end Workflow
