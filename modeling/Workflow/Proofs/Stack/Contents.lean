import Workflow.Stack.Cursor

/-!
# What a cursor holds

`Cursor.toList` is the view through which everything else reads a cursor: pushing puts a value in
front of the list, popping drops its head, and the head of the cursor is the head of the list.  This
needs the handle of the cursor to name a node that is there, `Cursor.Valid`, which every operation
keeps.

Popping some values leads from a stack to the stacks below it, `Arena.Pops`.  An arena never changes
a node, so what is below the current stack stays the same for as long as the cursor stays above it.
-/

namespace Workflow

namespace Arena

variable {α : Type}

/-- The handle names a node of the arena, or nothing. -/
def InRange (arena : Arena α) (handle : Handle) : Prop :=
  ∀ place, handle.place = some place → place < arena.size

@[simp] theorem inRange_empty (arena : Arena α) : arena.InRange .empty := by
  intro place hplace
  simp [Handle.empty] at hplace

theorem tailBelow_lt {arena : Arena α} {place below : Nat}
    (hbelow : (arena.tailBelow place).place = some below) : below < place := by
  unfold tailBelow at hbelow
  split at hbelow
  · simp [Handle.empty] at hbelow
  · simpa using (Option.filter_eq_some_iff.mp hbelow).2

theorem inRange_tailBelow {arena : Arena α} {place : Nat} (hplace : place < arena.size) :
    arena.InRange (arena.tailBelow place) := by
  intro below hbelow
  exact Nat.lt_trans (tailBelow_lt hbelow) hplace

@[simp] theorem size_push (arena : Arena α) (handle : Handle) (value : α) :
    (arena.push handle value).1.size = arena.size + 1 := by
  simp [push, size]

theorem InRange.push {arena : Arena α} {handle : Handle} (hrange : arena.InRange handle)
    (tail : Handle) (value : α) : (arena.push tail value).1.InRange handle := by
  intro place hplace
  have := hrange place hplace
  simp
  omega

theorem nodes_push_of_lt (arena : Arena α) (handle : Handle) (value : α) {place : Nat}
    (hplace : place < arena.size) :
    (arena.push handle value).1.nodes[place]? = arena.nodes[place]? := by
  have hne : place ≠ arena.nodes.size := Nat.ne_of_lt hplace
  simp [Arena.push, Array.getElem?_push, hne]

/-- A push changes no tail. -/
theorem tailBelow_push_of_lt (arena : Arena α) (handle : Handle) (value : α) {place : Nat}
    (hplace : place < arena.size) :
    (arena.push handle value).1.tailBelow place = arena.tailBelow place := by
  simp only [tailBelow, nodes_push_of_lt arena handle value hplace]

/-- The tail of a new node is the stack that was pushed upon. -/
theorem tailBelow_push_self (arena : Arena α) {handle : Handle} (value : α)
    (hrange : arena.InRange handle) :
    (arena.push handle value).1.tailBelow arena.size = handle := by
  have hnode : (arena.push handle value).1.nodes[arena.size]? = some ⟨value, handle⟩ := by
    simp [Arena.push, size]
  obtain ⟨place⟩ := handle
  cases place with
  | none => simp [tailBelow, hnode]
  | some place =>
      have hplace : place < arena.size := hrange place rfl
      simp [tailBelow, hnode, hplace]

theorem head?_push_of_inRange (arena : Arena α) (tail : Handle) (value : α) {handle : Handle}
    (hrange : arena.InRange handle) :
    (arena.push tail value).1.head? handle = arena.head? handle := by
  obtain ⟨place⟩ := handle
  cases place with
  | none => rfl
  | some place =>
      simp only [head?, Option.bind_some, nodes_push_of_lt arena tail value (hrange place rfl)]

/-- Every tail lies below its node. -/
def Ordered (arena : Arena α) : Prop :=
  ∀ ⦃place : Nat⦄ ⦃node : Node α⦄ ⦃below : Nat⦄, arena.nodes[place]? = some node →
    node.tail.place = some below → below < place

theorem ordered_empty : (empty : Arena α).Ordered := by
  intro place node below hnode
  simp [empty] at hnode

theorem Ordered.push {arena : Arena α} {handle : Handle} (hordered : arena.Ordered)
    (hrange : arena.InRange handle) (value : α) : (arena.push handle value).1.Ordered := by
  intro place node below hnode hbelow
  by_cases hnew : place = arena.size
  · subst hnew
    simp only [Arena.push, size, Array.getElem?_push_size, Option.some.injEq] at hnode
    subst hnode
    exact hrange below hbelow
  · have hplace : place < (arena.push handle value).1.size :=
      (Array.getElem?_eq_some_iff.mp hnode).1
    rw [size_push] at hplace
    rw [nodes_push_of_lt arena handle value (by omega)] at hnode
    exact hordered hnode hbelow

/-- In an ordered arena a tail may be read without a look at where it lies. -/
theorem Ordered.tailBelow_eq {arena : Arena α} (hordered : arena.Ordered) {place : Nat}
    {node : Node α} (hnode : arena.nodes[place]? = some node) :
    arena.tailBelow place = node.tail := by
  rw [tailBelow, hnode]
  dsimp only
  cases htail : node.tail with
  | mk below =>
      cases below with
      | none => rfl
      | some below =>
          have hbelow : below < place := hordered hnode (by rw [htail])
          simp [hbelow]

/-! ## The values of a stack -/

@[simp] theorem take_empty (arena : Arena α) (count : Nat) : arena.take count .empty = [] := by
  cases count <;> rfl

/-- Enough values are enough: beyond the place of the head a larger count changes nothing. -/
theorem take_eq_of_lt (arena : Arena α) {place : Nat} :
    ∀ {count other : Nat}, place < count → place < other →
      arena.take count ⟨some place⟩ = arena.take other ⟨some place⟩ := by
  induction place using Nat.strongRecOn with
  | ind place ih =>
      intro count other hcount hother
      obtain ⟨count, rfl⟩ := Nat.exists_eq_succ_of_ne_zero (Nat.ne_zero_of_lt hcount)
      obtain ⟨other, rfl⟩ := Nat.exists_eq_succ_of_ne_zero (Nat.ne_zero_of_lt hother)
      simp only [take]
      cases arena.nodes[place]? with
      | none => rfl
      | some node =>
          simp only [List.cons.injEq, true_and]
          cases htail : arena.tailBelow place with
          | mk below =>
              cases below with
              | none => exact (take_empty arena count).trans (take_empty arena other).symm
              | some below =>
                  have htail' : (arena.tailBelow place).place = some below := by rw [htail]
                  have hbelow : below < place := tailBelow_lt htail'
                  exact ih below hbelow (by omega) (by omega)

/-- A push leaves the values of every stack that is there already. -/
theorem take_push (arena : Arena α) (tail : Handle) (value : α) (count : Nat) :
    ∀ {handle : Handle}, arena.InRange handle →
      (arena.push tail value).1.take count handle = arena.take count handle := by
  induction count with
  | zero => intros; rfl
  | succ count ih =>
      intro handle hrange
      obtain ⟨place⟩ := handle
      cases place with
      | none => rfl
      | some place =>
          have hplace : place < arena.size := hrange place rfl
          simp only [take, nodes_push_of_lt arena tail value hplace,
            tailBelow_push_of_lt arena tail value hplace, ih (inRange_tailBelow hplace)]

theorem toList_eq_cons (arena : Arena α) {place : Nat} {node : Node α}
    (hnode : arena.nodes[place]? = some node) :
    arena.toList ⟨some place⟩ = node.head :: arena.toList (arena.tailBelow place) := by
  have hplace : place < arena.size := (Array.getElem?_eq_some_iff.mp hnode).1
  rw [toList, take_eq_of_lt arena hplace (Nat.lt_succ_self place)]
  simp only [take, hnode, List.cons.injEq, true_and]
  cases htail : arena.tailBelow place with
  | mk below =>
      cases below with
      | none => exact (take_empty arena place).trans (take_empty arena arena.size).symm
      | some below =>
          have htail' : (arena.tailBelow place).place = some below := by rw [htail]
          have hbelow : below < place := tailBelow_lt htail'
          exact take_eq_of_lt arena hbelow (Nat.lt_trans hbelow hplace)

@[simp] theorem toList_empty (arena : Arena α) : arena.toList .empty = [] :=
  take_empty arena arena.size

/-- A push leaves the list of every stack that is there already. -/
theorem toList_push_of_inRange (arena : Arena α) (tail : Handle) (value : α) {handle : Handle}
    (hrange : arena.InRange handle) :
    (arena.push tail value).1.toList handle = arena.toList handle := by
  obtain ⟨place⟩ := handle
  cases place with
  | none => exact (toList_empty _).trans (toList_empty _).symm
  | some place =>
      have hplace : place < arena.size := hrange place rfl
      rw [toList, take_push arena tail value _ hrange, size_push]
      exact take_eq_of_lt arena (Nat.lt_succ_of_lt hplace) hplace

/-- A push puts its value in front of the list that it was made upon. -/
theorem toList_push (arena : Arena α) {handle : Handle} (value : α)
    (hrange : arena.InRange handle) :
    (arena.push handle value).1.toList (arena.push handle value).2 =
      value :: arena.toList handle := by
  have hnode : (arena.push handle value).1.nodes[arena.size]? = some ⟨value, handle⟩ := by
    simp [Arena.push, size]
  change (arena.push handle value).1.toList ⟨some arena.size⟩ = _
  rw [toList_eq_cons _ hnode, tailBelow_push_self arena value hrange,
    toList_push_of_inRange arena handle value hrange]

/-! ## The stacks below a stack -/

/-- Popping the listed values, the first of them first, leads from one stack to another. -/
inductive Pops (arena : Arena α) : Handle → List α → Handle → Prop
  | refl (handle : Handle) : Pops arena handle [] handle
  | pop {place : Nat} {node : Node α} {values : List α} {target : Handle}
      (hnode : arena.nodes[place]? = some node)
      (rest : Pops arena (arena.tailBelow place) values target) :
      Pops arena ⟨some place⟩ (node.head :: values) target

/-- A push changes nothing below a stack that is there already. -/
theorem Pops.of_push {arena : Arena α} {tail handle target : Handle} {value : α} {values : List α}
    (hpops : (arena.push tail value).1.Pops handle values target)
    (hrange : arena.InRange handle) : arena.Pops handle values target := by
  induction hpops with
  | refl => exact .refl _
  | pop hnode rest ih =>
      have hplace := hrange _ rfl
      rw [nodes_push_of_lt arena tail value hplace] at hnode
      rw [tailBelow_push_of_lt arena tail value hplace] at ih
      exact .pop hnode (ih (inRange_tailBelow hplace))

/-- A stack of the old arena below a new stack was below the stack that was pushed upon. -/
theorem Pops.of_push_self {arena : Arena α} {handle target : Handle} {value : α} {values : List α}
    (hpops : (arena.push handle value).1.Pops (arena.push handle value).2 values target)
    (hrange : arena.InRange handle) (htarget : arena.InRange target) :
    ∃ older, values = value :: older ∧ arena.Pops handle older target := by
  cases hpops with
  | refl => exact absurd (htarget arena.size rfl) (Nat.lt_irrefl _)
  | @pop _ node older _ hnode rest =>
      have hnew : (arena.push handle value).1.nodes[arena.size]? = some ⟨value, handle⟩ := by
        simp [Arena.push, size]
      change (arena.push handle value).1.nodes[arena.size]? = some node at hnode
      rw [hnew] at hnode
      cases hnode
      change (arena.push handle value).1.Pops
        ((arena.push handle value).1.tailBelow arena.size) older target at rest
      rw [tailBelow_push_self arena value hrange] at rest
      exact ⟨older, rfl, rest.of_push hrange⟩

/-- The stacks below a stack are older. -/
theorem Pops.le {arena : Arena α} {handle target : Handle} {values : List α} {below : Nat}
    (hpops : arena.Pops handle values target) (htarget : target.place = some below) :
    ∃ place, handle.place = some place ∧ below + values.length ≤ place := by
  induction hpops with
  | refl => exact ⟨below, htarget, Nat.le_refl _⟩
  | @pop place node values target hnode rest ih =>
      obtain ⟨next, hnext, hle⟩ := ih htarget
      have hlt := tailBelow_lt hnext
      refine ⟨place, rfl, ?_⟩
      simp only [List.length_cons]
      omega

/-- No stack is below itself. -/
theorem Pops.eq_nil {arena : Arena α} {handle : Handle} {values : List α}
    (hpops : arena.Pops handle values handle) : values = [] := by
  cases hplace : handle.place with
  | none =>
      cases hpops with
      | refl => rfl
      | pop => cases hplace
  | some place =>
      obtain ⟨same, hsame, hle⟩ := hpops.le hplace
      rw [hplace] at hsame
      cases hsame
      exact List.length_eq_zero_iff.mp (by omega)

end Arena

namespace Cursor

variable {α : Type}

/-- The current stack of the cursor is there. -/
def Valid (cursor : Cursor α) : Prop :=
  cursor.arena.InRange cursor.handle

theorem valid_empty : (empty : Cursor α).Valid :=
  Arena.inRange_empty _

theorem valid_push (cursor : Cursor α) (value : α) : (cursor.push value).Valid := by
  intro place hplace
  have : place = cursor.arena.size := by
    simpa [push, Arena.push, Arena.size, eq_comm] using hplace
  simp [push, this]

theorem pop_none (arena : Arena α) : (⟨arena, ⟨none⟩⟩ : Cursor α).pop = ⟨arena, ⟨none⟩⟩ := rfl

theorem pop_some (arena : Arena α) (place : Nat) :
    (⟨arena, ⟨some place⟩⟩ : Cursor α).pop = ⟨arena, arena.tailBelow place⟩ := rfl

theorem Valid.pop {cursor : Cursor α} (hvalid : cursor.Valid) : cursor.pop.Valid := by
  obtain ⟨arena, place⟩ := cursor
  obtain ⟨place⟩ := place
  cases place with
  | none => exact hvalid
  | some place => exact Arena.inRange_tailBelow (hvalid place rfl)

theorem arena_pop (cursor : Cursor α) : cursor.pop.arena = cursor.arena := by
  obtain ⟨arena, place⟩ := cursor
  obtain ⟨place⟩ := place
  cases place <;> rfl

/-- The current stack is there, and so is every stack below one that is. -/
structure Linked (cursor : Cursor α) : Prop where
  valid : cursor.Valid
  ordered : cursor.arena.Ordered

theorem linked_empty : (empty : Cursor α).Linked :=
  ⟨valid_empty, Arena.ordered_empty⟩

theorem Linked.push {cursor : Cursor α} (hlinked : cursor.Linked) (value : α) :
    (cursor.push value).Linked :=
  ⟨valid_push cursor value, hlinked.ordered.push hlinked.valid value⟩

theorem Linked.pop {cursor : Cursor α} (hlinked : cursor.Linked) : cursor.pop.Linked :=
  ⟨hlinked.valid.pop, by rw [arena_pop]; exact hlinked.ordered⟩

/-- What is below the stack that is left after popping is below the current stack. -/
theorem pops_of_pop {cursor : Cursor α} {value : α} {values : List α} {target : Handle}
    (hhead : cursor.head? = some value)
    (hpops : cursor.pop.arena.Pops cursor.pop.handle values target) :
    cursor.arena.Pops cursor.handle (value :: values) target := by
  obtain ⟨arena, place⟩ := cursor
  obtain ⟨place⟩ := place
  cases place with
  | none => simp [head?, Arena.head?] at hhead
  | some place =>
      obtain ⟨node, hnode, rfl⟩ : ∃ node, arena.nodes[place]? = some node ∧
          node.head = value := by
        simpa [head?, Arena.head?] using hhead
      rw [pop_some] at hpops
      exact .pop hnode hpops

@[simp] theorem toList_empty : (empty : Cursor α).toList = [] :=
  Arena.toList_empty _

/-- Pushing puts a value in front. -/
theorem toList_push {cursor : Cursor α} (hvalid : cursor.Valid) (value : α) :
    (cursor.push value).toList = value :: cursor.toList :=
  Arena.toList_push cursor.arena value hvalid

/-- Popping drops the head. -/
theorem toList_pop {cursor : Cursor α} (hvalid : cursor.Valid) :
    cursor.pop.toList = cursor.toList.tail := by
  obtain ⟨arena, place⟩ := cursor
  obtain ⟨place⟩ := place
  cases place with
  | none =>
      have hempty : arena.toList ⟨none⟩ = [] := Arena.toList_empty arena
      simp [pop_none, toList, hempty]
  | some place =>
      have hplace : place < arena.size := hvalid place rfl
      have hnode : arena.nodes[place]? = some arena.nodes[place] :=
        Array.getElem?_eq_getElem hplace
      simp [pop_some, toList, Arena.toList_eq_cons arena hnode]

/-- The head of a cursor is the head of its list. -/
theorem head?_eq {cursor : Cursor α} (hvalid : cursor.Valid) :
    cursor.head? = cursor.toList.head? := by
  obtain ⟨arena, place⟩ := cursor
  obtain ⟨place⟩ := place
  cases place with
  | none =>
      have hempty : arena.toList ⟨none⟩ = [] := Arena.toList_empty arena
      simp [toList, hempty, head?, Arena.head?]
  | some place =>
      have hplace : place < arena.size := hvalid place rfl
      have hnode : arena.nodes[place]? = some arena.nodes[place] :=
        Array.getElem?_eq_getElem hplace
      simp [toList, Arena.toList_eq_cons arena hnode, head?, Arena.head?, hnode]

/-- A cursor is empty exactly when its list is. -/
theorem isEmpty_eq {cursor : Cursor α} (hvalid : cursor.Valid) :
    cursor.isEmpty = cursor.toList.isEmpty := by
  obtain ⟨arena, place⟩ := cursor
  obtain ⟨place⟩ := place
  cases place with
  | none =>
      have hempty : arena.toList ⟨none⟩ = [] := Arena.toList_empty arena
      simp [toList, hempty, isEmpty, Handle.isEmpty]
  | some place =>
      have hplace : place < arena.size := hvalid place rfl
      have hnode : arena.nodes[place]? = some arena.nodes[place] :=
        Array.getElem?_eq_getElem hplace
      simp [toList, Arena.toList_eq_cons arena hnode, isEmpty, Handle.isEmpty]

end Cursor

end Workflow
