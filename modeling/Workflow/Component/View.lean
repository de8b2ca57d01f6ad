import Workflow.Component.Basic

/-!
# What a component shows

Every component renders to a tree for the program around the session.  Templates are filled and
paths followed in the state of the screen.
-/

namespace Workflow

def Value.ofString? : Option String → Value
  | some text => .string text
  | none => .null

/-- What the program around the session sees of a component. -/
structure Component.View where
  name : String
  sort : String
  value : Option Value
  disabled : Bool
  errors : List String
  display : Value
  deriving DecidableEq, Repr

namespace Component

/-- The options of a selection: those declared, or without any the list found at the path; a value
found there that is no list is the only option. -/
def optionsOf (options : List Value) (path : Option String) (state : Value) :
    Except Error (List Value) :=
  match path, options with
  | some path, [] =>
    (state.valueAt path).map fun
      | .list items => items
      | other => [other]
  | _, options => .ok options

def render (component : Component) (state : Value) : Except Error Value :=
  let value := component.judged
  match component.widget with
  | .input label obscure inputType => .ok <| .object
      [("input_type", .string (inputType.getD "text")), ("label", .string label),
        ("obscure", .bool obscure), ("value", value)]
  | .dateTime label => .ok <| .object
      [("input_type", .string "datetime"), ("label", .string label), ("obscure", .bool false),
        ("value", value)]
  | .selection label isRequired options path =>
    (optionsOf options path state).map fun options => .object
      [("is_required", .bool isRequired), ("label", .string label), ("options", .list options),
        ("value", value)]
  | .toggle label style _ => .ok <| .object
      [("label", .string label), ("style", .ofString? style), ("value", value)]
  | .button action style text _ _ => .ok <| .object
      [("action", .string action), ("style", .ofString? style), ("text", .string text)]
  | .textbox text => (Template.render text state).map fun text => .object [("text", .string text)]
  | .messageBox message size =>
    (Template.render message.template state).map fun text => .object
      [("size", .ofString? size), ("text", .string text), ("type", .string message.sort)]
  | .image url => .ok <| .object [("url", .string url)]
  | .dataDisplay displayType title subtitle path =>
    (state.valueAt path).map fun data => .object
      [("data", data), ("display_type", .string displayType), ("subtitle", .ofString? subtitle),
        ("title", .string title)]

/-- The view of a component; `judge` reads the state of the screen. -/
def view (component : Component) (judge : Judge) : Except Error Component.View := do
  let disabled ← component.isDisabled judge
  let display ← component.render judge.state
  return { name := component.name
           sort := component.widget.sortName
           value := component.value
           disabled
           errors := component.errors
           display }

end Component

end Workflow
