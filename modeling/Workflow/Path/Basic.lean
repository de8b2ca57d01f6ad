/-!
# Paths

A path leads from the root of a tree to some of its values, one segment for each step down.  The
path without segments leads to the root.
-/

namespace Workflow

/-- One step of a path: into a field, to an item of a list, or to every child. -/
inductive Segment
  | field (name : String)
  | index (position : Nat)
  | wildcard
  deriving DecidableEq, Repr

/-- A path from the root of a tree. -/
abbrev Path := List Segment

namespace Segment

def text : Segment → List Char
  | .field name => '.' :: name.toList
  | .index position => '[' :: (Nat.toDigits 10 position ++ [']'])
  | .wildcard => ['[', '*', ']']

end Segment

/-- The text of a path: the texts of its segments, one after another. -/
def Path.text (path : Path) : String :=
  String.ofList (path.flatMap Segment.text)

end Workflow
