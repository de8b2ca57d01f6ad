import Workflow.Component.View
import Workflow.Value.Merge

/-!
# Screens

A screen is a list of components in the order of its rows, shown or not.  An operation on a name
means the first component with that name, and that one must be shown.
-/

namespace Workflow

structure Screen where
  components : List Component
  deriving DecidableEq, Repr, Inhabited

namespace Screen

/-- The components of the placements, from the first on, each of which must be declared. -/
def build (repository : Repository) (screen : String) :
    List Placement → Except Error (List Component)
  | [] => .ok []
  | placement :: rest =>
    match Keyed.get? placement.component repository.components with
    | some decl => (build repository screen rest).map (Component.ofDecl decl placement :: ·)
    | none => .error (.undeclared "component" placement.component screen)

def ofRows (repository : Repository) (name : String) (rows : List (List Placement)) :
    Except Error Screen :=
  (build repository name rows.flatten).map Screen.mk

/-- The components that are shown, in order. -/
def shownAmong (judge : Judge) : List Component → Except Error (List Component)
  | [] => .ok []
  | component :: rest => do
    let isShown ← component.isShown judge
    let others ← shownAmong judge rest
    return if isShown then component :: others else others

def shown (screen : Screen) (judge : Judge) : Except Error (List Component) :=
  shownAmong judge screen.components

/-- The shown component of a name, and its place. -/
def find (screen : Screen) (task name : String) (judge : Judge) :
    Except Error (Nat × Component) :=
  match screen.components.zipIdx.find? fun pair => pair.1.name == name with
  | none => .error (.notShown task name)
  | some (component, place) =>
    match component.isShown judge with
    | .ok true => .ok (place, component)
    | .ok false => .error (.notShown task name)
    | .error error => .error error

def replace (screen : Screen) (place : Nat) (component : Component) : Screen :=
  ⟨screen.components.set place component⟩

def set (screen : Screen) (task name : String) (value : Value) (judge : Judge) :
    Except Error Screen := do
  let (place, component) ← screen.find task name judge
  let component ← component.set value
  return screen.replace place component

/-- Clicks a shown component. A component may change even where its effects cannot be told. -/
def click (screen : Screen) (task name : String) (judge : Judge) :
    Except Error (List ClickEffect) × Screen :=
  match screen.find task name judge with
  | .error error => (.error error, screen)
  | .ok (place, component) =>
    let (effects, component) := component.click judge
    (effects, screen.replace place component)

/-- Runs the validators of one component if it is shown, and removes its messages if it is not. -/
def validateOne (judge : Judge) (component : Component) : Except Error Component :=
  match component.isShown judge with
  | .ok true => component.validated judge
  | .ok false => .ok component.withoutErrors
  | .error error => .error error

/-- Validates components from the first on. One that cannot be judged stops the others from being
validated; what was found before it stays. -/
def validateAll (judge : Judge) : List Component → Except Error Unit × List Component
  | [] => (.ok (), [])
  | component :: rest =>
    match validateOne judge component with
    | .error error => (.error error, component :: rest)
    | .ok component =>
      let (outcome, rest) := validateAll judge rest
      (outcome, component :: rest)

/-- The screen after validation, and whether all that is shown is valid. -/
def validate (screen : Screen) (judge : Judge) : Except Error Bool × Screen :=
  let (outcome, components) := validateAll judge screen.components
  (outcome.map fun _ => components.all fun component => component.errors.isEmpty, ⟨components⟩)

/-- The messages of the components that have any; of two components with one name the later
counts. -/
def errors (screen : Screen) : List (String × List String) :=
  Keyed.ofList <| screen.components.filterMap fun component =>
    if component.errors.isEmpty then none else some (component.name, component.errors)

/-- What a shown component adds to the result of a screen: its value and the destination of it,
unless it is a button. -/
def contribution? (component : Component) : Option (String × Value) :=
  if component.widget.isButton then none
  else
    match component.destination, component.value with
    | some path, some value => some (path, value)
    | _, _ => none

/-- The given values, each written at its path, merged over `result` one after another. -/
def gather (result : Value) : List (String × Value) → Except Error Value
  | [] => .ok result
  | (path, value) :: rest =>
    match value.patchAt path with
    | .ok patch => gather (result.merge patch) rest
    | .error error => .error error

/-- The values of the shown components other than buttons, each at its destination. -/
def result (screen : Screen) (judge : Judge) : Except Error Value := do
  let shown ← screen.shown judge
  gather .empty (shown.filterMap contribution?)

end Screen

end Workflow
