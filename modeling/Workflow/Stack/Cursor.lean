import Workflow.Stack.Arena

/-!
# A cursor on a persistent stack

A cursor is an arena together with one of its stacks, the current one.  Pushing, popping and
updating move the cursor; a handle taken earlier can be restored, because the arena forgets
nothing.  A session keeps its active scopes and its history in two cursors.
-/

namespace Workflow

/-- An arena and its current stack. -/
structure Cursor (α : Type) where
  arena : Arena α
  handle : Handle
  deriving DecidableEq, Repr, Inhabited

namespace Cursor

variable {α : Type}

def empty : Cursor α := ⟨.empty, .empty⟩

def isEmpty (cursor : Cursor α) : Bool :=
  cursor.handle.isEmpty

def head? (cursor : Cursor α) : Option α :=
  cursor.arena.head? cursor.handle

def push (cursor : Cursor α) (value : α) : Cursor α :=
  let (arena, handle) := cursor.arena.push cursor.handle value
  ⟨arena, handle⟩

/-- Moves to the tail; the empty stack has none. -/
def pop? (cursor : Cursor α) : Option (Cursor α) :=
  (cursor.arena.pop? cursor.handle).map fun handle => { cursor with handle }

def pop (cursor : Cursor α) : Cursor α :=
  cursor.pop?.getD cursor

/-- Replaces the head; the empty stack gets its first value. -/
def update (cursor : Cursor α) (value : α) : Cursor α :=
  let (arena, handle) := cursor.arena.update cursor.handle value
  ⟨arena, handle⟩

def restore (cursor : Cursor α) (handle : Handle) : Cursor α :=
  { cursor with handle }

def singleton (value : α) : Cursor α :=
  empty.push value

/-- The values of the current stack, from the head on. -/
def toList (cursor : Cursor α) : List α :=
  cursor.arena.toList cursor.handle

def depth (cursor : Cursor α) : Nat :=
  cursor.toList.length

end Cursor

end Workflow
