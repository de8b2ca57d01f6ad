import Workflow.Document.Declaration
import Workflow.Template
import Workflow.Value.Merge

/-!
# Running instructions

An instruction computes one value from a state and writes it at its target into an empty tree; the
trees that a list of instructions writes are merged into one patch.  Plain instructions all see the
same state.  Chained ones see what the instructions before them wrote.
-/

namespace Workflow

/-- A value written at a path text into an empty tree. -/
def Value.patchAt (path : String) (value : Value) : Except Error Value :=
  Value.empty.setAt path value

/-- A value written into an empty tree where a destination says, and no tree without one. -/
def Value.placed (destination : Option String) (value : Value) : Except Error Value :=
  match destination with
  | some path => value.patchAt path
  | none => .ok value

namespace Instruction

def evaluate (instruction : Instruction) (state : Value) : Except Error Value :=
  match instruction.operand with
  | .literal value => .ok value
  | .path path => state.valueAt path
  | .template text => (Template.render text state).map .string

/-- The tree that an instruction writes when it sees `state`. -/
def write (instruction : Instruction) (state : Value) : Except Error Value :=
  match instruction.evaluate state with
  | .ok value => value.patchAt instruction.target
  | .error error => .error error

/-- The patch that grows from `patch` when the instructions run on `state`; the state grows with it
if they are chained. -/
def extend (chained : Bool) (state patch : Value) : List Instruction → Except Error Value
  | [] => .ok patch
  | instruction :: rest =>
    match instruction.write state with
    | .ok written =>
      extend chained (if chained then state.merge written else state) (patch.merge written) rest
    | .error error => .error error

/-- The patch of instructions that all see `state`. -/
def patch (instructions : List Instruction) (state : Value) : Except Error Value :=
  extend false state .empty instructions

/-- The patch of instructions each of which sees `state` and what those before it wrote. -/
def chainedPatch (instructions : List Instruction) (state : Value) : Except Error Value :=
  extend true state .empty instructions

end Instruction

end Workflow
