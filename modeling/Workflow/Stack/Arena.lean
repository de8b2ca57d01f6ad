/-!
# Persistent stacks in an arena

An arena is a sequence of nodes that only grows.  A handle names a node, or nothing: it stands for
the stack whose head is in that node and whose tail is the stack of the node's own handle.  Pushing
adds a node and changes none, so stacks share their tails without harm.

A tail lies below its node.  `tailBelow` reads a tail under that rule, which makes following tails
end for every arena; `Arena.toList` is the list of values a handle stands for.
-/

namespace Workflow

/-- A stack in an arena: the place of its head, or the empty stack. -/
structure Handle where
  place : Option Nat
  deriving DecidableEq, Repr, Inhabited

namespace Handle

def empty : Handle := ⟨none⟩

def isEmpty (handle : Handle) : Bool :=
  handle.place.isNone

end Handle

namespace Arena

/-- One value of a stack and the handle of the rest. -/
structure Node (α : Type) where
  head : α
  tail : Handle
  deriving DecidableEq, Repr

end Arena

/-- The nodes of all stacks, in the order in which they were added. -/
structure Arena (α : Type) where
  nodes : Array (Arena.Node α)
  deriving DecidableEq, Repr

namespace Arena

variable {α : Type}

def empty : Arena α := ⟨#[]⟩

instance : Inhabited (Arena α) := ⟨empty⟩

def size (arena : Arena α) : Nat :=
  arena.nodes.size

def isEmpty (arena : Arena α) : Bool :=
  arena.nodes.isEmpty

/-- The tail of the node at `place`, which has to lie below it. -/
def tailBelow (arena : Arena α) (place : Nat) : Handle :=
  match arena.nodes[place]? with
  | none => .empty
  | some node => ⟨node.tail.place.filter (· < place)⟩

def head? (arena : Arena α) (handle : Handle) : Option α :=
  handle.place.bind fun place => arena.nodes[place]?.map Node.head

/-- The tail of a stack; the empty stack has none. -/
def pop? (arena : Arena α) (handle : Handle) : Option Handle :=
  handle.place.map arena.tailBelow

/-- The stack with `value` in front of `handle`, in a new node. -/
def push (arena : Arena α) (handle : Handle) (value : α) : Arena α × Handle :=
  (⟨arena.nodes.push ⟨value, handle⟩⟩, ⟨some arena.nodes.size⟩)

/-- The stack with its head replaced, in a new node; the empty stack gets its first value. -/
def update (arena : Arena α) (handle : Handle) (value : α) : Arena α × Handle :=
  arena.push ((arena.pop? handle).getD .empty) value

/-- The values of a stack of at most `count` values, from the head on. -/
def take (arena : Arena α) : Nat → Handle → List α
  | 0, _ => []
  | count + 1, handle =>
    match handle.place with
    | none => []
    | some place =>
      match arena.nodes[place]? with
      | none => []
      | some node => node.head :: arena.take count (arena.tailBelow place)

/-- The values of a stack, from the head on. No stack is longer than the arena. -/
def toList (arena : Arena α) (handle : Handle) : List α :=
  arena.take arena.size handle

end Arena

end Workflow
