import Workflow.Document.Declaration
import Workflow.Document.Record

/-!
# Reading documents

One reader for each declared part.  Absent settings get their defaults here; a wrong type, a missing
field or an unknown sort is a fault of the whole document.
-/

namespace Workflow

open Reading

def Reading.names : Json → Reading (List String) :=
  list string

/-- Message text and its sort, both empty by default. -/
def MessageDecl.read (json : Json) : Reading MessageDecl := do
  let record ← Record.read ["template", "type"] json
  record.finish <| MessageDecl.mk
    <$> record.field ["template"] string ""
    <*> record.field ["type"] string ""

/-- The instruction that a table describes. A `value` comes before a `key`, and a `key` before a
`template`. -/
def Instruction.ofFields (fields : List (String × Value)) : Reading Instruction :=
  match Keyed.get? "result_key" fields with
  | some (.string target) =>
    match Keyed.get? "value" fields, Keyed.get? "key" fields, Keyed.get? "template" fields with
    | some value, _, _ => .ok ⟨.literal value, target⟩
    | none, some (.string path), _ => .ok ⟨.path path, target⟩
    | none, _, some (.string text) => .ok ⟨.template text, target⟩
    | none, _, _ => .error (.noOperand target)
  | _ => .error .noTarget

/-- An instruction, which must be an object. -/
def Instruction.read (json : Json) : Reading Instruction :=
  match json with
  | .object _ =>
    match json.toValue? with
    | some value => ofFields value.fields
    | none => .error .shape
  | _ => .error .shape

/-- The rule of a name, which may also be written as the only field of an object, with null. -/
def Rule.read (json : Json) : Reading Rule :=
  let name? := match json with
    | .string name => some name
    | .object [(name, .null)] => some name
    | _ => none
  match name?.bind fun name => Rule.all.find? fun rule => rule.name == name with
  | some rule => .ok rule
  | none => .error .shape

def ValidatorDecl.read (json : Json) : Reading ValidatorDecl := do
  let record ← Record.read
    ["type", "message", "valid_when", "value_path", "validator_key", "validator_value"] json
  record.finish <| ValidatorDecl.mk
    <$> record.required ["type"] Rule.read
    <*> record.field ["message"] MessageDecl.read ⟨"", ""⟩
    <*> record.field ["valid_when"] bool true
    <*> record.optional ["value_path", "value_key"] string
    <*> record.optional ["validator_key"] string
    <*> record.field ["validator_value"] value .null

namespace WidgetDecl

/-- A reader of the settings of one sort of component. -/
abbrev SettingsReader := Record → Checked WidgetDecl

/-- The readers of all sorts of components, each under the name of its sort. -/
def readers : List (String × SettingsReader) := [
  ("input", fun record => input
    <$> record.field ["label"] string ""
    <*> record.field ["obscure"] bool false
    <*> record.optional ["component_type"] string),
  ("datetime", fun record => dateTime
    <$> record.field ["label"] string ""),
  ("textbox", fun record => textbox
    <$> record.field ["text"] string ""),
  ("selection", fun record => selection
    <$> record.field ["label"] string ""
    <*> record.field ["is_required"] bool false
    <*> record.field ["options_values"] (list value) []
    <*> record.optional ["options_key"] string),
  ("toggle", fun record => toggle
    <$> record.field ["label"] string ""
    <*> record.optional ["style"] string
    <*> record.field ["value"] value .null),
  ("button", fun record => button
    <$> record.required ["action"] string
    <*> record.optional ["style"] string
    <*> record.field ["text"] string ""
    <*> record.field ["value"] value (.bool true)
    <*> record.field ["disabling_validators"] names []),
  ("message_box", fun record => messageBox
    <$> record.required ["message"] MessageDecl.read
    <*> record.optional ["size"] string),
  ("image", fun record => image
    <$> record.required ["url"] string),
  ("displaydata", fun record => dataDisplay
    <$> record.required ["display_type"] string
    <*> record.field ["title"] string ""
    <*> record.optional ["subtitle"] string
    <*> record.required ["data"] string)]

/-- The reader of a sort, given by its name or by its place in the list of sorts. -/
def reader (json : Json) : Reading SettingsReader :=
  let found := match json with
    | .string name => (readers.find? fun pair => pair.1 == name).map Prod.snd
    | .number number => number.toNat?.bind fun place => readers[place]?.map Prod.snd
    | _ => none
  match found with
  | some settings => .ok settings
  | none => .error .shape

/-- The settings of a component, of the sort that its type says. -/
def read (record : Record) : Reading WidgetDecl := do
  let settings ← record.finish (record.required ["type"] reader)
  record.finish (settings record)

end WidgetDecl

/-- A component, which must be an object all of whose parts are readable. -/
def ComponentDecl.read (json : Json) : Reading ComponentDecl :=
  match json with
  | .object fields =>
    if json.isReadable then do
      let record : Record := ⟨fields, false⟩
      let build ← record.finish <| ComponentDecl.mk
        <$> record.field ["preconditions"] names []
        <*> record.field ["validator", "validators"] names []
        <*> record.optional ["destination_path"] string
      return build (← WidgetDecl.read record)
    else .error .shape
  | _ => .error .shape

def FlowSettings.read (json : Json) : Reading FlowSettings := do
  let record ← Record.read
    ["result", "result_paths", "destination_path", "conditions", "iterable_path"] json
  record.finish <| FlowSettings.mk
    <$> record.optional ["result"] value
    <*> record.field ["result_paths"] (list Instruction.read) []
    <*> record.optional ["destination_path"] string
    <*> record.field ["conditions"] names []
    <*> record.optional ["iterable_path"] string

def Placement.read (json : Json) : Reading Placement := do
  let record ← Record.read ["name", "destination_path", "preconditions"] json
  record.finish <| Placement.mk
    <$> record.required ["name"] string
    <*> record.optional ["destination_path"] string
    <*> record.optional ["preconditions"] names

namespace TaskDecl

/-- A task with a name, preconditions and the settings of its sort; `names` are those settings in
the order of their declaration. -/
def readAs (names : List String) (settings : Record → Checked TaskAction) (json : Json) :
    Reading TaskDecl := do
  let record ← Record.read ("name" :: "preconditions" :: names) json
  record.finish <| TaskDecl.mk
    <$> record.required ["name"] string
    <*> record.field ["preconditions"] Reading.names []
    <*> settings record

def readFlow (repetition : Repetition) : Json → Reading TaskDecl :=
  readAs ["config"] fun record => TaskAction.flow repetition
    <$> record.optional ["config"] FlowSettings.read

def readRemoteCall : Json → Reading TaskDecl :=
  readAs ["url", "method", "payload", "payload_paths", "destination_path"] fun record =>
    TaskAction.remoteCall <$> (RemoteCallDecl.mk
      <$> record.required ["url"] string
      <*> record.optional ["method"] string
      <*> record.field ["payload"] value .empty
      <*> record.field ["payload_paths"] (list Instruction.read) []
      <*> record.optional ["destination_path"] string)

def readScreen : Json → Reading TaskDecl :=
  readAs ["components"] fun record => TaskAction.screen
    <$> record.required ["components"] (list (list Placement.read))

def readUpdate : Json → Reading TaskDecl :=
  readAs ["instructions"] fun record => TaskAction.update
    <$> record.required ["instructions", "tasks"] (list Instruction.read)

def readRedirect : Json → Reading TaskDecl :=
  readAs ["url"] fun record => TaskAction.redirect <$> record.required ["url"] string

def readEvent : Json → Reading TaskDecl :=
  readAs ["action"] fun record => TaskAction.event <$> record.required ["action"] string

def readSort (sort : Json) (settings : Json) : Reading TaskDecl :=
  match sort with
  | .string "screen" => readScreen settings
  | .string "jsonrpc" => readRemoteCall settings
  | .string "flow" => readFlow .once settings
  | .string "while_loop" => readFlow .whileConditions settings
  | .string "for_loop" => readFlow .forItems settings
  | .string "update" => readUpdate settings
  | .string "redirect" => readRedirect settings
  | .string "event" => readEvent settings
  | _ => .error .shape

/-- A task: an object with its sort under `type`, or a list that begins with the sort. All its
parts must be readable. -/
def read (json : Json) : Reading TaskDecl :=
  if json.isReadable then
    match json with
    | .object fields =>
      match fields.partition fun field => field.1 == "type" with
      | ([(_, sort)], settings) => readSort sort (.object settings)
      | _ => .error .shape
    | .list (sort :: settings) => readSort sort (.list settings)
    | _ => .error .shape
  else .error .shape

end TaskDecl

def FlowDecl.read (json : Json) : Reading FlowDecl := do
  let record ← Record.read ["tasks", "config"] json
  record.finish <| FlowDecl.mk
    <$> record.required ["tasks"] (list TaskDecl.read)
    <*> record.field ["config"] FlowSettings.read {}

/-- A document, its references not yet checked. -/
def Document.read (json : Json) : Reading Document := do
  let record ← Record.read
    ["components", "validators", "flows", "starting_flow", "context", "hash"] json
  record.finish <| Document.mk
    <$> (Repository.mk
      <$> record.field ["components"] (table ComponentDecl.read) []
      <*> record.field ["validators"] (table ValidatorDecl.read) []
      <*> record.required ["flows"] (table FlowDecl.read))
    <*> record.required ["starting_flow"] string
    <*> record.field ["context"] value .empty
    <*> record.optional ["hash"] string

end Workflow
