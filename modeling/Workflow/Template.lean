import Workflow.Path.Access
import Workflow.Value.Text

/-!
# Templates

A template is text with placeholders: a path between double braces, blanks around it ignored.  A
placeholder starts at the leftmost pair of opening braces that some pair of closing braces follows,
ends at the first such pair, and holds no line feed.  Rendering replaces all placeholders at once,
so inserted text is never scanned again.
-/

namespace Workflow.Template

/-- A part of a template. -/
inductive Part
  | literal (c : Char)
  | placeholder (path : String)
  deriving DecidableEq, Repr

/-- What follows two closing braces at the start of the text, blanks before them passed over. -/
def afterClosing? (text : List Char) : Option (List Char) :=
  match Text.trimStart text with
  | '\x7d' :: '\x7d' :: rest => some rest
  | _ => none

/-- The characters before the first closing braces, and what follows the braces. -/
def splitAtClosing? : List Char → Option (List Char × List Char)
  | [] => none
  | c :: rest =>
    match afterClosing? (c :: rest) with
    | some after => some ([], after)
    | none =>
      if c = '\n' then none
      else (splitAtClosing? rest).map fun (inside, after) => (c :: inside, after)

/-- The parts of a text, of which each takes up at least one character. -/
def partsWithin : Nat → List Char → List Part
  | _, [] => []
  | 0, _ :: _ => []
  | fuel + 1, '\x7b' :: '\x7b' :: rest =>
    match splitAtClosing? (Text.trimStart rest) with
    | some (inside, after) => .placeholder (String.ofList inside) :: partsWithin fuel after
    | none => .literal '\x7b' :: partsWithin fuel ('\x7b' :: rest)
  | fuel + 1, c :: rest => .literal c :: partsWithin fuel rest

def parts (template : String) : List Part :=
  let text := template.toList
  partsWithin text.length text

def hasPlaceholder (template : String) : Bool :=
  (parts template).any fun
    | .placeholder _ => true
    | .literal _ => false

/-- The text of the parts, the placeholders filled from `state`; the first that leads to nothing
fails. -/
def fill (state : Value) : List Part → Except Error (List Char)
  | [] => .ok []
  | .literal c :: rest => (fill state rest).map (c :: ·)
  | .placeholder path :: rest =>
    match state.valueAt path with
    | .error error => .error error
    | .ok value => (fill state rest).map (value.display.toList ++ ·)

/-- The text of a template, its placeholders filled from `state`. -/
def render (template : String) (state : Value) : Except Error String :=
  (fill state (parts template)).map String.ofList

end Workflow.Template
