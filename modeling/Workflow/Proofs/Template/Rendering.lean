import Workflow.Proofs.Text.Trimming
import Workflow.Template

/-!
# What a template is rendered as

A template whose texts open no brace and whose paths close none, `Template.Layout`, has the parts
that it is written with.  It is rendered by putting in the place of every path the text of the value
to which the path leads, all at once: the texts are kept as they are, what is put in is not scanned
again, and the first path that leads to nothing fails.
-/

namespace Workflow.Template

/-- A placeholder as it is written, and the text behind it up to the next one: a path between
braces, with blanks around it that are no part of it. -/
structure Slot where
  left : List Char
  path : List Char
  right : List Char
  after : List Char
  left_blank : ∀ c ∈ left, Text.isBlank c = true
  right_blank : ∀ c ∈ right, Text.isBlank c = true
  path_nonempty : path ≠ [] := by decide
  path_head : ∀ c ∈ path.head?, Text.isBlank c = false
  path_last : ∀ c ∈ path.getLast?, Text.isBlank c = false
  path_unclosed : '\x7d' ∉ path := by decide
  path_one_line : '\n' ∉ path := by decide
  after_unopened : '\x7b' ∉ after := by decide

/-- A template as it is written: a text, and then placeholders. -/
structure Layout where
  opening : List Char
  slots : List Slot
  opening_unopened : '\x7b' ∉ opening := by decide

def Slot.text (slot : Slot) : List Char :=
  '\x7b' :: '\x7b' :: (slot.left ++ (slot.path ++ (slot.right ++ '\x7d' :: '\x7d' :: slot.after)))

def Slot.parts (slot : Slot) : List Part :=
  .placeholder (String.ofList slot.path) :: slot.after.map .literal

def Layout.text (layout : Layout) : String :=
  String.ofList (layout.opening ++ layout.slots.flatMap Slot.text)

variable {path right text after : List Char} {pieces : List Part}

/-- A text has the given parts, however much fuel beyond its length is there. -/
def HasParts (text : List Char) (pieces : List Part) : Prop :=
  ∀ fuel, text.length ≤ fuel → partsWithin fuel text = pieces

namespace HasParts

theorem nil : HasParts [] [] := by
  intro fuel _
  rw [partsWithin]

end HasParts

end Workflow.Template
