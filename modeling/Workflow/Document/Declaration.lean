import Workflow.Value.Basic

/-!
# Declared parts of a document

The parts of a workflow document, with defaults in the place of absent settings: its components, its
validators, its flows and the tasks of these.  Declarations are plain data.  Names in them refer to
other declarations of the same document; that these exist is a matter of the whole document.
-/

namespace Workflow

/-- Message text with placeholders, and the sort of message it is. -/
structure MessageDecl where
  template : String
  sort : String
  deriving DecidableEq, Repr, Inhabited

/-- What a declared component is, with the settings of its sort. -/
inductive WidgetDecl
  | input (label : String) (obscure : Bool) (inputType : Option String)
  | dateTime (label : String)
  | textbox (text : String)
  | selection (label : String) (isRequired : Bool) (options : List Value)
      (optionsPath : Option String)
  | toggle (label : String) (style : Option String) (value : Value)
  | button (action : String) (style : Option String) (text : String) (value : Value)
      (disabling : List String)
  | messageBox (message : MessageDecl) (size : Option String)
  | image (url : String)
  | dataDisplay (displayType title : String) (subtitle : Option String) (dataPath : String)
  deriving DecidableEq, Repr, Inhabited

def WidgetDecl.sortName : WidgetDecl → String
  | .input .. => "input"
  | .dateTime .. => "datetime"
  | .textbox .. => "textbox"
  | .selection .. => "selection"
  | .toggle .. => "toggle"
  | .button .. => "button"
  | .messageBox .. => "message_box"
  | .image .. => "image"
  | .dataDisplay .. => "displaydata"

/-- A component as declared. Screens refer to it by the name it is declared under. -/
structure ComponentDecl where
  preconditions : List String
  validators : List String
  destination : Option String
  widget : WidgetDecl
  deriving DecidableEq, Repr, Inhabited

/-- What a validator compares and how. -/
inductive Rule
  | isLength
  | equals
  | notEquals
  | greaterThan
  | lessThan
  | matchesPattern
  deriving DecidableEq, Repr, Inhabited

def Rule.name : Rule → String
  | .isLength => "isLength"
  | .equals => "equals"
  | .notEquals => "notEquals"
  | .greaterThan => "greaterThan"
  | .lessThan => "lessThan"
  | .matchesPattern => "matches"

def Rule.all : List Rule :=
  [.isLength, .equals, .notEquals, .greaterThan, .lessThan, .matchesPattern]

/-- A named rule with the value it expects. The value judged is read at `subjectPath` if there is
one, the value expected at `expectedPath` if there is one. A value passes if the outcome of the rule
is `passesWhen`. -/
structure ValidatorDecl where
  rule : Rule
  message : MessageDecl
  passesWhen : Bool
  subjectPath : Option String
  expectedPath : Option String
  expected : Value
  deriving DecidableEq, Repr, Inhabited

/-- What an instruction makes its value of: a literal, what a path leads to, or a filled text. -/
inductive Operand
  | literal (value : Value)
  | path (path : String)
  | template (text : String)
  deriving DecidableEq, Repr, Inhabited

/-- An instruction to write one value at the path `target`. -/
structure Instruction where
  operand : Operand
  target : String
  deriving DecidableEq, Repr, Inhabited

/-- How a flow runs its tasks: once, while its conditions pass, or once for each item of a list. -/
inductive Repetition
  | once
  | whileConditions
  | forItems
  deriving DecidableEq, Repr, Inhabited

/-- Settings of a flow. `literal` and `resultPaths` make up what it publishes, `destination` says
where; `conditions` and `itemsPath` drive loops. -/
structure FlowSettings where
  literal : Option Value := none
  resultPaths : List Instruction := []
  destination : Option String := none
  conditions : List String := []
  itemsPath : Option String := none
  deriving DecidableEq, Repr, Inhabited

/-- The settings with those of `inline` put before them; an empty list or an absent setting of
`inline` leaves what is there. -/
def FlowSettings.overriddenBy (settings inline : FlowSettings) : FlowSettings where
  literal := inline.literal.or settings.literal
  resultPaths := if inline.resultPaths.isEmpty then settings.resultPaths else inline.resultPaths
  destination := inline.destination.or settings.destination
  conditions := if inline.conditions.isEmpty then settings.conditions else inline.conditions
  itemsPath := inline.itemsPath.or settings.itemsPath

/-- The placing of a component, with settings that come before those of its declaration. -/
structure Placement where
  component : String
  destination : Option String
  preconditions : Option (List String)
  deriving DecidableEq, Repr, Inhabited

structure RemoteCallDecl where
  url : String
  method : Option String
  payload : Value
  payloadPaths : List Instruction
  destination : Option String
  deriving DecidableEq, Repr, Inhabited

/-- What a declared task does. A flow task names the flow it runs by its own name. -/
inductive TaskAction
  | screen (rows : List (List Placement))
  | remoteCall (call : RemoteCallDecl)
  | flow (repetition : Repetition) (settings : Option FlowSettings)
  | update (instructions : List Instruction)
  | redirect (url : String)
  | event (action : String)
  deriving DecidableEq, Repr, Inhabited

/-- A declared task of a flow. It is skipped unless all its preconditions pass. -/
structure TaskDecl where
  name : String
  preconditions : List String
  action : TaskAction
  deriving DecidableEq, Repr, Inhabited

/-- A named flow: its tasks in order, and its settings. -/
structure FlowDecl where
  tasks : List TaskDecl
  settings : FlowSettings
  deriving DecidableEq, Repr, Inhabited

/-- What the scopes of a session look names up in. -/
structure Repository where
  components : List (String × ComponentDecl)
  validators : List (String × ValidatorDecl)
  flows : List (String × FlowDecl)
  deriving DecidableEq, Repr, Inhabited

/-- A workflow document. The context is the state its starting flow begins with; the hash is kept
and never checked. -/
structure Document where
  repository : Repository
  startingFlow : String
  context : Value
  hash : Option String
  deriving DecidableEq, Repr, Inhabited

end Workflow
