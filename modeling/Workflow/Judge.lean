import Workflow.Rule
import Workflow.Template

/-!
# Checking values by named validators

A judge applies the validators of a document to values, against one state, and reads patterns as the
host does.  A validator judges the value it is given, or the one its path leads to in the state; a
path that leads nowhere gives null.
-/

namespace Workflow

/-- The validators of a document, the state they read and what reads their patterns. -/
structure Judge where
  validators : List (String × ValidatorDecl)
  readPattern : PatternReader
  state : Value

namespace Judge

def validator (judge : Judge) (name : String) : Except Error ValidatorDecl :=
  match Keyed.get? name judge.validators with
  | some decl => .ok decl
  | none => .error (.noValidator name)

/-- The value at a path if there is a path, and `given` otherwise. -/
def valueOr (judge : Judge) (path : Option String) (given : Value) : Except Error Value :=
  match path with
  | some path => (judge.state.valueAt? path).map (·.getD .null)
  | none => .ok given

/-- Whether a validator passes for `value`. -/
def passes (judge : Judge) (name : String) (value : Value) : Except Error Bool := do
  let decl ← judge.validator name
  let subject ← judge.valueOr decl.subjectPath value
  let expected ← judge.valueOr decl.expectedPath decl.expected
  let outcome ← (decl.rule.outcome judge.readPattern subject expected).mapError
    (.inapplicableRule name)
  return outcome == decl.passesWhen

/-- Whether every named validator passes; the first that does not decides. -/
def allPass (judge : Judge) (value : Value) : List String → Except Error Bool
  | [] => .ok true
  | name :: rest =>
    match judge.passes name value with
    | .ok true => judge.allPass value rest
    | other => other

/-- Whether some named validator passes; the first that does decides. -/
def anyPasses (judge : Judge) (value : Value) : List String → Except Error Bool
  | [] => .ok false
  | name :: rest =>
    match judge.passes name value with
    | .ok false => judge.anyPasses value rest
    | other => other

def message (judge : Judge) (name : String) : Except Error String := do
  let decl ← judge.validator name
  Template.render decl.message.template judge.state

/-- The messages of the named validators that do not pass, in their order. -/
def failures (judge : Judge) (value : Value) : List String → Except Error (List String)
  | [] => .ok []
  | name :: rest => do
    if ← judge.passes name value then judge.failures value rest
    else
      let text ← judge.message name
      let others ← judge.failures value rest
      return text :: others

end Judge

/-- The validators of a document that a host runs, reading one state. -/
def Repository.judge (repository : Repository) (host : Host) (state : Value) : Judge where
  validators := repository.validators
  readPattern := host.readPattern
  state

end Workflow
