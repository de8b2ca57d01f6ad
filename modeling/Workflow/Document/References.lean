import Workflow.Document.Reader
import Workflow.Host
import Workflow.Json.Reader

/-!
# Checking a document

A document may only refer to what it declares, and its context must be an object.  `Document.fault?`
finds the first reference that leads nowhere; a document without such a fault is sound, and only
sound documents are loaded.
-/

namespace Workflow

namespace Repository

/-- The first of the names that no validator has, `owner` being where they stand. -/
def missingValidator? (repository : Repository) (owner : String) (names : List String) :
    Option Error :=
  (names.find? fun name => !Keyed.contains name repository.validators).map fun name =>
    .undeclared "validator" name owner

def missingFlow? (repository : Repository) (owner name : String) : Option Error :=
  if Keyed.contains name repository.flows then none
  else some (.undeclared "flow" name owner)

/-- What a component refers to and is missing. -/
def componentFault? (repository : Repository) (name : String) (component : ComponentDecl) :
    Option Error :=
  let disabling := match component.widget with
    | .button _ _ _ _ disabling => disabling
    | _ => []
  [component.preconditions, component.validators, disabling].findSome?
    (repository.missingValidator? name)

/-- What a placed component refers to and is missing. -/
def placementFault? (repository : Repository) (owner : String) (placement : Placement) :
    Option Error :=
  if Keyed.contains placement.component repository.components then
    repository.missingValidator? owner (placement.preconditions.getD [])
  else some (.undeclared "component" placement.component owner)

/-- What a task of the flow `flow` refers to and is missing. -/
def taskFault? (repository : Repository) (flow : String) (task : TaskDecl) : Option Error :=
  let name := task.name
  let owner := s!"{flow}.{name}"
  let inside := match task.action with
    | .screen rows => rows.flatten.findSome? (repository.placementFault? owner)
    | .flow _ settings =>
      (repository.missingFlow? owner name).or
        (repository.missingValidator? owner ((settings.map FlowSettings.conditions).getD []))
    | .remoteCall _ | .update _ | .redirect _ | .event _ => none
  (repository.missingValidator? owner task.preconditions).or inside

/-- What a flow refers to and is missing. -/
def flowFault? (repository : Repository) (name : String) (flow : FlowDecl) : Option Error :=
  (repository.missingValidator? name flow.settings.conditions).or
    (flow.tasks.findSome? (repository.taskFault? name))

end Repository

namespace Document

/-- Why a document cannot be run, if it cannot. -/
def fault? (document : Document) : Option Error :=
  let repository := document.repository
  if !document.context.isObject then some (.contextNotObject document.context.kindName)
  else
    (repository.missingFlow? "starting_flow" document.startingFlow).or <|
      (repository.components.findSome? fun (name, component) =>
        repository.componentFault? name component).or
      (repository.flows.findSome? fun (name, flow) => repository.flowFault? name flow)

def checked (document : Document) : Except Error Document :=
  match document.fault? with
  | some error => .error error
  | none => .ok document

/-- The sound document that a JSON value writes. -/
def load (host : Host) (json : Json) : Except Error Document :=
  match read json with
  | .ok document => document.checked
  | .error fault => .error (.badDocument (fault.message (host.valueFault json)))

/-- The sound document that a text writes. Of a text, the host words every fault. -/
def ofText (host : Host) (text : String) : Except Error Document :=
  match (Json.read? text).map read with
  | some (.ok document) => document.checked
  | some (.error _) | none => .error (.badDocument (host.textFault text))

end Document

end Workflow
