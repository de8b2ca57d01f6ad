/-!
# Causes of failure

One type holds every cause for which an operation of the library fails, and `Error.message` gives
each its wording.  Field validation is not a failure: its messages are kept with the components.
-/

namespace Workflow

/-- Why a path text is not a path. -/
inductive PathFault
  | emptyField
  | unterminatedBracket
  | badBracket (inner : String)
  | unexpected (c : Char) (offset : Nat)
  deriving DecidableEq, Repr

/-- Why nothing can be written at a path. The kinds name the value that stands in the way. -/
inductive WriteFault
  | fieldOn (name kind : String)
  | indexOutOfRange (index size : Nat)
  | indexInto (kind : String)
  | nothingToExpand (kind : String)
  deriving DecidableEq, Repr

/-- Why a JSON value is not the declaration that is read from it. -/
inductive DocumentFault
  | shape
  | noTarget
  | noOperand (key : String)
  deriving DecidableEq, Repr

/-- Why a pattern rule cannot be applied: there is no text, or the host refused it for a reason. -/
inductive RuleFault
  | noPattern
  | badPattern (reason : String)
  deriving DecidableEq, Repr

/-- Why a source has no text for a url. A file at a path is unreadable for a reason. -/
inductive SourceFault
  | unregistered
  | unreadable (path reason : String)
  deriving DecidableEq, Repr

inductive Error
  | emptyStack
  | badPath (path : String) (fault : PathFault)
  | nothingAt (path : String)
  | cannotWrite (path : String) (fault : WriteFault)
  | badDocument (reason : String)
  | undeclared (kind name referencedBy : String)
  | contextNotObject (kind : String)
  | disabledComponent (component : String)
  | notShown (task component : String)
  | holdsNoValue (component : String)
  | cannotBeClicked (component : String)
  | taskIsComplete (task : String)
  | otherSort (task expected found : String)
  | notAList (flow path : String)
  | tooManyPasses (flow : String) (limit : Nat)
  | noValidator (name : String)
  | inapplicableRule (validator : String) (fault : RuleFault)
  | noFlow (name : String)
  | foreignTask (index : Nat)
  | noDocument (url : String) (fault : SourceFault)
  deriving DecidableEq, Repr

def PathFault.message : PathFault → String
  | .emptyField => "empty field name after '.'"
  | .unterminatedBracket => "unterminated '['"
  | .badBracket inner => s!"'{inner}' is not an index, quoted key or '*'"
  | .unexpected c offset => s!"unexpected character '{c}' at offset {offset}"

def WriteFault.message : WriteFault → String
  | .fieldOn name kind => s!"cannot set field '{name}' on a {kind}"
  | .indexOutOfRange index size => s!"index {index} is out of range for a list of {size}"
  | .indexInto kind => s!"cannot index into a {kind}"
  | .nothingToExpand kind => s!"wildcard has nothing to expand into on a {kind}"

/-- The wording of a document fault, in the words of the host where it is the shape. -/
def DocumentFault.message (words : String) : DocumentFault → String
  | .shape => words
  | .noTarget => "instruction is missing a string 'result_key'"
  | .noOperand key =>
    s!"instruction for '{key}' needs one of 'value', 'key' or 'template'"

def RuleFault.message : RuleFault → String
  | .noPattern => "'matches' needs a string pattern"
  | .badPattern reason => reason

def SourceFault.message : SourceFault → String
  | .unregistered => "no document registered for this url"
  | .unreadable path reason => s!"{path}: {reason}"

def Error.message : Error → String
  | .emptyStack => "Cannot read or pop the head of an empty stack"
  | .badPath path fault =>
    let reason := fault.message
    s!"Invalid path expression '{path}': {reason}"
  | .nothingAt path => s!"Path '{path}' did not match any value in the state tree"
  | .cannotWrite path fault =>
    let reason := fault.message
    s!"No mutation strategy for path '{path}': {reason}"
  | .badDocument reason => s!"Invalid workflow document: {reason}"
  | .undeclared kind name referencedBy =>
    s!"{kind} '{name}' referenced by '{referencedBy}' is not defined in the document"
  | .contextNotObject kind =>
    s!"The initial document context must be a JSON object, found {kind}"
  | .disabledComponent component =>
    s!"Component '{component}' is disabled and cannot be clicked"
  | .notShown task component =>
    s!"Component '{component}' is not shown on screen '{task}'"
  | .holdsNoValue component => s!"Component '{component}' does not hold a value"
  | .cannotBeClicked component => s!"Component '{component}' cannot be clicked"
  | .taskIsComplete task =>
    s!"Task '{task}' is already complete and accepts no more input"
  | .otherSort task expected found => s!"Task '{task}' is a {found} task, expected {expected}"
  | .notAList flow path => s!"Value at '{path}' used by loop '{flow}' is not a list"
  | .tooManyPasses flow limit => s!"Loop '{flow}' exceeded the limit of {limit} passes"
  | .noValidator name => s!"Validator '{name}' is not defined"
  | .inapplicableRule validator fault =>
    let reason := fault.message
    s!"Validator '{validator}' cannot be applied: {reason}"
  | .noFlow name => s!"Flow '{name}' is not defined"
  | .foreignTask index => s!"Task task#{index} does not belong to this session"
  | .noDocument url fault =>
    let reason := fault.message
    s!"Could not fetch document '{url}': {reason}"

end Workflow
