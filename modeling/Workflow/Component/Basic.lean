import Workflow.Judge
import Workflow.Instruction

/-!
# Components

A component is a declared widget where a screen has it.  Input fields and selections hold a value
that may be set; toggles and buttons hold one that a click changes; all other components hold none.
A component is shown if its preconditions pass.
-/

namespace Workflow

/-- What a click asks the screen of a component to do. -/
inductive ClickEffect
  | update (patch : Value)
  | action (name : String)
  deriving DecidableEq, Repr

/-- A component where it is placed, with what it holds and its messages. -/
structure Component where
  name : String
  widget : WidgetDecl
  value : Option Value
  destination : Option String
  preconditions : List String
  validators : List String
  errors : List String
  deriving DecidableEq, Repr, Inhabited

namespace WidgetDecl

/-- The value a component starts with, if it holds one. A toggle without a value is off. -/
def startValue? : WidgetDecl → Option Value
  | .input .. | .dateTime .. | .selection .. | .button .. => some .null
  | .toggle _ _ value => some (if value.isNull then .bool false else value)
  | .textbox .. | .messageBox .. | .image .. | .dataDisplay .. => none

def isSettable : WidgetDecl → Bool
  | .input .. | .dateTime .. | .selection .. => true
  | _ => false

def isClickable : WidgetDecl → Bool
  | .toggle .. | .button .. => true
  | _ => false

def isButton : WidgetDecl → Bool
  | .button .. => true
  | _ => false

/-- The validators of which any that passes disables the component. -/
def disabling : WidgetDecl → List String
  | .button _ _ _ _ disabling => disabling
  | _ => []

end WidgetDecl

namespace Component

/-- The component that a declaration gives where it is placed. -/
def ofDecl (decl : ComponentDecl) (placement : Placement) : Component where
  name := placement.component
  widget := decl.widget
  value := decl.widget.startValue?
  destination := placement.destination.or decl.destination
  preconditions := placement.preconditions.getD decl.preconditions
  validators := decl.validators
  errors := []

/-- The value that validators judge. -/
def judged (component : Component) : Value :=
  component.value.getD .null

/-- The component with another value, if one may be set. -/
def set (component : Component) (value : Value) : Except Error Component :=
  if component.widget.isSettable then .ok { component with value := some value }
  else .error (.holdsNoValue component.name)

def isShown (component : Component) (judge : Judge) : Except Error Bool :=
  judge.allPass component.judged component.preconditions

def isDisabled (component : Component) (judge : Judge) : Except Error Bool :=
  judge.anyPasses component.judged component.widget.disabling

def validated (component : Component) (judge : Judge) : Except Error Component :=
  (judge.failures component.judged component.validators).map fun errors =>
    { component with errors }

def withoutErrors (component : Component) : Component :=
  { component with errors := [] }

/-- What a button asks for: its value at its destination, if it has both, and then its action. -/
def buttonEffects (destination : Option String) (value : Value) (action : String) :
    Except Error (List ClickEffect) :=
  match destination with
  | some path =>
    if value.isNull then .ok [.action action]
    else (value.patchAt path).map fun patch => [.update patch, .action action]
  | none => .ok [.action action]

/-- Presses a component: a toggle flips, a button takes its value and asks for its effects. -/
def press (component : Component) : Except Error (List ClickEffect) × Component :=
  match component.widget with
  | .toggle .. =>
    let isOn := component.value == some (.bool true)
    (.ok [], { component with value := some (.bool !isOn) })
  | .button action _ _ value _ =>
    (buttonEffects component.destination value action, { component with value := some value })
  | _ => (.error (.cannotBeClicked component.name), component)

/-- Clicks a component: it must be clickable and not disabled. -/
def click (component : Component) (judge : Judge) :
    Except Error (List ClickEffect) × Component :=
  if component.widget.isClickable then
    match component.isDisabled judge with
    | .ok true => (.error (.disabledComponent component.name), component)
    | .ok false => component.press
    | .error error => (.error error, component)
  else (.error (.cannotBeClicked component.name), component)

end Component

end Workflow
