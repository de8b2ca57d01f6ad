import Workflow.Proofs.Stack.Contents

/-!
# Stacks as immutable lists

Whatever is done with the stacks of an arena, and in whatever order, comes to the same as doing it
with lists.  A `Bench` is a cursor together with the handles that were obtained from its arena, and
a `ListBench` holds a list in the place of every stack.  Both perform the same acts: those on the
current stack move the cursor, those on another stack make a handle.

The lists are read off a bench by `Bench.view`.  It commutes with every act, because an arena only
grows and every tail lies below its node; so a handle stands for the same list for ever.
-/

namespace Workflow

/-- Which stack is meant: the current one, or the one whose handle was obtained with the given
number. Where there is no such handle, the empty stack is meant. -/
inductive StackName
  | current
  | obtained (number : Nat)

/-- What can be done with the stacks of an arena. The handle of the current stack can be obtained,
and the cursor can be set to a handle. -/
inductive StackAct (α : Type)
  | push (name : StackName) (value : α)
  | pop (name : StackName)
  | update (name : StackName) (value : α)
  | head (name : StackName)
  | iterate (name : StackName)
  | get
  | set (number : Nat)

/-- What an act is answered with. -/
inductive StackAnswer (α : Type)
  | done
  | emptyStack
  | head (value : α)
  | values (values : List α)

namespace StackAct

variable {α σ : Type}

def adds : StackAct α → Bool
  | .push .. | .update .. => true
  | _ => false

/-- The answers to some acts, one after the other, and where they lead. -/
def runWith (perform : σ → StackAct α → StackAnswer α × σ) (start : σ) :
    List (StackAct α) → List (StackAnswer α) × σ
  | [] => ([], start)
  | act :: acts =>
    let performed := perform start act
    let ran := runWith perform performed.2 acts
    (performed.1 :: ran.1, ran.2)

theorem runWith_append (perform : σ → StackAct α → StackAnswer α × σ) (start : σ)
    (acts more : List (StackAct α)) :
    (runWith perform start (acts ++ more)).2 =
      (runWith perform (runWith perform start acts).2 more).2 := by
  induction acts generalizing start with
  | nil => rfl
  | cons act acts ih => exact ih (perform start act).2

end StackAct

/-! ## Arenas that grow -/

namespace Arena

variable {α : Type} {arena : Arena α} {handle : Handle}

/-- Following the tails that the nodes of a stack hold comes to an end, and passes the given
values. -/
inductive Iterates (arena : Arena α) : Handle → List α → Prop
  | done : Iterates arena .empty []
  | next {place : Nat} {node : Node α} {values : List α}
      (hnode : arena.nodes[place]? = some node) (rest : Iterates arena node.tail values) :
      Iterates arena ⟨some place⟩ (node.head :: values)

theorem Ordered.iterates (hordered : arena.Ordered) (hrange : arena.InRange handle) :
    arena.Iterates handle (arena.toList handle) := by
  obtain ⟨place⟩ := handle
  cases place with
  | none => exact toList_empty arena ▸ .done
  | some place =>
      -- every tail lies below its node, which is what makes the iteration end
      induction place using Nat.strongRecOn with
      | ind place ih =>
          have hplace : place < arena.size := hrange place rfl
          have hnode : arena.nodes[place]? = some arena.nodes[place] :=
            Array.getElem?_eq_getElem hplace
          rw [toList_eq_cons arena hnode]
          apply Iterates.next hnode
          rw [← hordered.tailBelow_eq hnode]
          cases htail : arena.tailBelow place with
          | mk below =>
              cases below with
              | none => exact toList_empty arena ▸ .done
              | some below =>
                  have hbelow : below < place := tailBelow_lt (congrArg Handle.place htail)
                  exact ih below hbelow (htail ▸ inRange_tailBelow hplace)

/-- An empty stack has neither a head nor a tail, and any other has both. -/
theorem head?_pop?_cases (hrange : arena.InRange handle) :
    (arena.head? handle = none ∧ arena.pop? handle = none ∧ arena.toList handle = []) ∨
      ∃ value tail, arena.head? handle = some value ∧ arena.pop? handle = some tail ∧
        arena.toList handle = value :: arena.toList tail ∧ arena.InRange tail := by
  obtain ⟨place⟩ := handle
  cases place with
  | none => exact .inl ⟨rfl, rfl, toList_empty arena⟩
  | some place =>
      right
      have hplace : place < arena.size := hrange place rfl
      have hnode : arena.nodes[place]? = some arena.nodes[place] :=
        Array.getElem?_eq_getElem hplace
      refine ⟨arena.nodes[place].head, arena.tailBelow place, ?_, rfl, toList_eq_cons arena hnode,
        inRange_tailBelow hplace⟩
      rw [head?, Option.bind_some, hnode, Option.map_some]

/-- Every stack of the old arena is in the new one and stands for the same list there. -/
def Extends (old new : Arena α) : Prop :=
  ∀ handle, old.InRange handle → new.InRange handle ∧ new.toList handle = old.toList handle

theorem Extends.refl (arena : Arena α) : Extends arena arena :=
  fun _ hrange => ⟨hrange, rfl⟩

theorem Extends.trans {a b c : Arena α} (hab : Extends a b) (hbc : Extends b c) :
    Extends a c := by
  intro handle hrange
  obtain ⟨hrange', hlist⟩ := hab handle hrange
  obtain ⟨hrange'', hlist'⟩ := hbc handle hrange'
  exact ⟨hrange'', hlist'.trans hlist⟩

theorem extends_push (arena : Arena α) (tail : Handle) (value : α) :
    Extends arena (arena.push tail value).1 :=
  fun _ hrange => ⟨hrange.push tail value, toList_push_of_inRange arena tail value hrange⟩

/-- What has become of an arena when a stack was made in it: every stack is as it was, the tails
still lie below their nodes, and the new stack is there. -/
structure Makes (arena : Arena α) (made : Arena α × Handle) : Prop where
  kept : Extends arena made.1
  ordered : made.1.Ordered
  inRange : made.1.InRange made.2

theorem Ordered.makes_push (hordered : arena.Ordered) (hrange : arena.InRange handle) (value : α) :
    arena.Makes (arena.push handle value) where
  kept := extends_push arena handle value
  ordered := hordered.push hrange value
  inRange := by
    intro place hplace
    cases hplace
    rw [size_push]
    exact Nat.lt_succ_self _

/-- An update makes the list with its head replaced. -/
theorem toList_update (hrange : arena.InRange handle) (value : α) :
    (arena.update handle value).1.toList (arena.update handle value).2 =
      value :: (arena.toList handle).tail := by
  rw [update]
  obtain ⟨-, hpop, hlist⟩ | ⟨head, tail, -, hpop, hlist, htail⟩ := head?_pop?_cases hrange
  · rw [hpop, Option.getD_none, toList_push arena value (inRange_empty arena), toList_empty, hlist,
      List.tail_nil]
  · rw [hpop, Option.getD_some, toList_push arena value htail, hlist, List.tail_cons]

theorem Ordered.makes_update (hordered : arena.Ordered) (hrange : arena.InRange handle)
    (value : α) : arena.Makes (arena.update handle value) := by
  apply hordered.makes_push
  obtain ⟨-, hpop, -⟩ | ⟨head, tail, -, hpop, -, htail⟩ := head?_pop?_cases hrange
  · rw [hpop]
    exact inRange_empty arena
  · rw [hpop]
    exact htail

end Arena

/-! ## Acts on lists -/

/-- A current list, and the lists in the place of handles. -/
structure ListBench (α : Type) where
  current : List α
  obtained : List (List α)
  deriving DecidableEq, Repr

namespace ListBench

variable {α : Type}

def empty : ListBench α := ⟨[], []⟩

def stack (bench : ListBench α) : StackName → List α
  | .current => bench.current
  | .obtained number => bench.obtained[number]?.getD []

/-- A list that was made from the one that is meant. -/
def place (bench : ListBench α) (name : StackName) (made : List α) : ListBench α :=
  match name with
  | .current => { bench with current := made }
  | .obtained _ => { bench with obtained := bench.obtained ++ [made] }

def perform (bench : ListBench α) : StackAct α → StackAnswer α × ListBench α
  | .push name value => (.done, bench.place name (value :: bench.stack name))
  | .pop name =>
    match bench.stack name with
    | [] => (.emptyStack, bench)
    | _ :: rest => (.done, bench.place name rest)
  | .update name value =>
    match bench.stack name with
    | [] => (.done, bench.place name [value])
    | _ :: rest => (.done, bench.place name (value :: rest))
  | .head name =>
    match bench.stack name with
    | [] => (.emptyStack, bench)
    | value :: _ => (.head value, bench)
  | .iterate name => (.values (bench.stack name), bench)
  | .get => (.done, { bench with obtained := bench.obtained ++ [bench.current] })
  | .set number => (.done, { bench with current := bench.stack (.obtained number) })

/-- The answers to some acts on lists, and the lists they lead to. -/
def run (bench : ListBench α) (acts : List (StackAct α)) : List (StackAnswer α) × ListBench α :=
  StackAct.runWith perform bench acts

end ListBench

/-! ## Acts on stacks -/

/-- A cursor and the handles that were obtained from its arena. -/
structure Bench (α : Type) where
  cursor : Cursor α
  obtained : List Handle

namespace Bench

variable {α : Type} {bench : Bench α}

def empty : Bench α := ⟨.empty, []⟩

def arena (bench : Bench α) : Arena α :=
  bench.cursor.arena

def handle (bench : Bench α) (number : Nat) : Handle :=
  bench.obtained[number]?.getD .empty

def stack (bench : Bench α) : StackName → Handle
  | .current => bench.cursor.handle
  | .obtained number => bench.handle number

/-- A handle that was obtained, in the arena that has it. -/
def obtain (bench : Bench α) (made : Arena α × Handle) : Bench α :=
  { cursor := { bench.cursor with arena := made.1 }
    obtained := bench.obtained ++ [made.2] }

def perform (bench : Bench α) : StackAct α → StackAnswer α × Bench α
  | .push .current value => (.done, { bench with cursor := bench.cursor.push value })
  | .push (.obtained number) value =>
    (.done, bench.obtain (bench.arena.push (bench.handle number) value))
  | .pop .current =>
    match bench.cursor.pop? with
    | none => (.emptyStack, bench)
    | some cursor => (.done, { bench with cursor })
  | .pop (.obtained number) =>
    match bench.arena.pop? (bench.handle number) with
    | none => (.emptyStack, bench)
    | some tail => (.done, bench.obtain (bench.arena, tail))
  | .update .current value => (.done, { bench with cursor := bench.cursor.update value })
  | .update (.obtained number) value =>
    (.done, bench.obtain (bench.arena.update (bench.handle number) value))
  | .head .current =>
    match bench.cursor.head? with
    | none => (.emptyStack, bench)
    | some value => (.head value, bench)
  | .head (.obtained number) =>
    match bench.arena.head? (bench.handle number) with
    | none => (.emptyStack, bench)
    | some value => (.head value, bench)
  | .iterate .current => (.values bench.cursor.toList, bench)
  | .iterate (.obtained number) => (.values (bench.arena.toList (bench.handle number)), bench)
  | .get => (.done, { bench with obtained := bench.obtained ++ [bench.cursor.handle] })
  | .set number => (.done, { bench with cursor := bench.cursor.restore (bench.handle number) })

/-- The answers to some acts on stacks, and where they lead. -/
def run (bench : Bench α) (acts : List (StackAct α)) : List (StackAnswer α) × Bench α :=
  StackAct.runWith perform bench acts

/-- The lists that the stacks stand for. -/
def view (bench : Bench α) : ListBench α :=
  ⟨bench.cursor.toList, bench.obtained.map bench.arena.toList⟩

/-- Every stack at hand is there, and so are the stacks below it. -/
structure Sound (bench : Bench α) : Prop where
  ordered : bench.arena.Ordered
  inRange : ∀ name, bench.arena.InRange (bench.stack name)

theorem sound_empty : (empty : Bench α).Sound where
  ordered := Arena.ordered_empty
  inRange := by
    intro name
    cases name <;> exact Arena.inRange_empty _

theorem stack_view (bench : Bench α) (name : StackName) :
    bench.view.stack name = bench.arena.toList (bench.stack name) := by
  cases name with
  | current => rfl
  | obtained number =>
      simp only [view, ListBench.stack, stack, handle, List.getElem?_map]
      cases bench.obtained[number]? with
      | none => exact (Arena.toList_empty _).symm
      | some handle => rfl

/-! ### Making a stack -/

/-- A stack that was made from the one that is meant, in the arena that has it. -/
def place (bench : Bench α) (name : StackName) (made : Arena α × Handle) : Bench α :=
  match name with
  | .current => { bench with cursor := ⟨made.1, made.2⟩ }
  | .obtained _ => bench.obtain made

@[simp] theorem arena_place (bench : Bench α) (name : StackName) (made : Arena α × Handle) :
    (bench.place name made).arena = made.1 := by
  cases name <;> rfl

theorem stack_place (bench : Bench α) (name other : StackName) (made : Arena α × Handle) :
    (bench.place name made).stack other = bench.stack other ∨
      (bench.place name made).stack other = made.2 := by
  cases name with
  | current =>
      cases other with
      | current => exact .inr rfl
      | obtained number => exact .inl rfl
  | obtained _ =>
      cases other with
      | current => exact .inl rfl
      | obtained number =>
          simp only [place, obtain, stack, handle, List.getElem?_append, List.getElem?_singleton]
          by_cases hold : number < bench.obtained.length
          · rw [if_pos hold]
            exact .inl rfl
          · rw [if_neg hold, List.getElem?_eq_none (Nat.le_of_not_lt hold)]
            by_cases hnew : number - bench.obtained.length = 0
            · rw [if_pos hnew]
              exact .inr rfl
            · rw [if_neg hnew]
              exact .inl rfl

theorem Sound.place (hsound : bench.Sound) {made : Arena α × Handle}
    (hmade : bench.arena.Makes made) (name : StackName) : (bench.place name made).Sound where
  ordered := by
    rw [arena_place]
    exact hmade.ordered
  inRange := by
    intro other
    rw [arena_place]
    obtain hold | hnew := stack_place bench name other made
    · rw [hold]
      exact (hmade.kept _ (hsound.inRange other)).1
    · rw [hnew]
      exact hmade.inRange

theorem Sound.map_toList (hsound : bench.Sound) {later : Arena α}
    (hkept : bench.arena.Extends later) :
    bench.obtained.map later.toList = bench.obtained.map bench.arena.toList := by
  apply List.map_congr_left
  intro handle hmem
  obtain ⟨number, hnumber, rfl⟩ := List.mem_iff_getElem.mp hmem
  have hstack : bench.stack (.obtained number) = bench.obtained[number] := by
    rw [stack, Bench.handle, List.getElem?_eq_getElem hnumber, Option.getD_some]
  rw [← hstack]
  exact (hkept _ (hsound.inRange (.obtained number))).2

/-- A stack that is made changes no list but the one that it takes the place of. -/
theorem Sound.view_place (hsound : bench.Sound) {made : Arena α × Handle}
    (hmade : bench.arena.Makes made) (name : StackName) :
    (bench.place name made).view = bench.view.place name (made.1.toList made.2) := by
  have hobtained := hsound.map_toList hmade.kept
  cases name with
  | current => exact congrArg (ListBench.mk _) hobtained
  | obtained _ =>
      have hcurrent := (hmade.kept _ (hsound.inRange .current)).2
      simp only [Bench.place, obtain, view, ListBench.place, List.map_append, List.map_singleton,
        ListBench.mk.injEq]
      exact ⟨hcurrent, congrArg (· ++ [made.1.toList made.2]) hobtained⟩

/-! ### What an act does -/

theorem perform_push (bench : Bench α) (name : StackName) (value : α) :
    bench.perform (.push name value) =
      (.done, bench.place name (bench.arena.push (bench.stack name) value)) := by
  cases name <;> rfl

theorem perform_update (bench : Bench α) (name : StackName) (value : α) :
    bench.perform (.update name value) =
      (.done, bench.place name (bench.arena.update (bench.stack name) value)) := by
  cases name <;> rfl

theorem perform_pop (bench : Bench α) (name : StackName) :
    bench.perform (.pop name) =
      match bench.arena.pop? (bench.stack name) with
      | none => (.emptyStack, bench)
      | some tail => (.done, bench.place name (bench.arena, tail)) := by
  cases name with
  | current =>
      simp only [perform, Cursor.pop?, stack, arena]
      cases bench.cursor.arena.pop? bench.cursor.handle <;> rfl
  | obtained number => rfl

theorem perform_head (bench : Bench α) (name : StackName) :
    bench.perform (.head name) =
      match bench.arena.head? (bench.stack name) with
      | none => (.emptyStack, bench)
      | some value => (.head value, bench) := by
  cases name <;> rfl

theorem perform_iterate (bench : Bench α) (name : StackName) :
    bench.perform (.iterate name) = (.values (bench.arena.toList (bench.stack name)), bench) := by
  cases name <;> rfl

/-- The handle of a stack at hand can be put in the place of another one. -/
theorem Sound.makes (hsound : bench.Sound) {handle : Handle}
    (hrange : bench.arena.InRange handle) : bench.arena.Makes (bench.arena, handle) :=
  ⟨.refl _, hsound.ordered, hrange⟩

/-- An act does to stacks what it does to the lists that they stand for, and leaves every old stack
as it was; nothing but a push or an update adds a node. -/
structure Simulated (bench : Bench α) (act : StackAct α) : Prop where
  answer : (bench.perform act).1 = (bench.view.perform act).1
  view : (bench.perform act).2.view = (bench.view.perform act).2
  sound : (bench.perform act).2.Sound
  kept : bench.arena.Extends (bench.perform act).2.arena
  size : (bench.perform act).2.arena.size = bench.arena.size + if act.adds then 1 else 0

theorem simulated_of_place {act : StackAct α} {made : Arena α × Handle} (name : StackName)
    (hsound : bench.Sound) (hmade : bench.arena.Makes made)
    (hperform : bench.perform act = (.done, bench.place name made))
    (hview : bench.view.perform act =
      (.done, bench.view.place name (made.1.toList made.2)))
    (hsize : made.1.size = bench.arena.size + if act.adds then 1 else 0) :
    bench.Simulated act := by
  constructor <;> rw [hperform]
  · rw [hview]
  · rw [hview]
    exact hsound.view_place hmade name
  · exact hsound.place hmade name
  · rw [arena_place]
    exact hmade.kept
  · rw [arena_place]
    exact hsize

theorem simulated_of_unchanged {act : StackAct α} {answer : StackAnswer α}
    (hsound : bench.Sound) (hadds : act.adds = false)
    (hperform : bench.perform act = (answer, bench))
    (hview : bench.view.perform act = (answer, bench.view)) : bench.Simulated act := by
  constructor <;> rw [hperform]
  · rw [hview]
  · rw [hview]
  · exact hsound
  · exact .refl _
  · rw [hadds]
    rfl

theorem Sound.simulated_push (hsound : bench.Sound) (name : StackName) (value : α) :
    bench.Simulated (.push name value) := by
  have hrange := hsound.inRange name
  apply simulated_of_place name hsound (hsound.ordered.makes_push hrange value)
    (perform_push bench name value)
  · rw [ListBench.perform, stack_view, Arena.toList_push bench.arena value hrange]
  · exact Arena.size_push bench.arena _ value

theorem Sound.simulated_update (hsound : bench.Sound) (name : StackName) (value : α) :
    bench.Simulated (.update name value) := by
  have hrange := hsound.inRange name
  apply simulated_of_place name hsound (hsound.ordered.makes_update hrange value)
    (perform_update bench name value)
  · rw [ListBench.perform, stack_view, Arena.toList_update hrange value]
    cases bench.arena.toList (bench.stack name) <;> rfl
  · exact Arena.size_push bench.arena _ value

theorem Sound.simulated_pop (hsound : bench.Sound) (name : StackName) :
    bench.Simulated (.pop name) := by
  have hpopped := perform_pop bench name
  obtain ⟨-, hpop, hlist⟩ | ⟨value, tail, -, hpop, hlist, htail⟩ :=
    Arena.head?_pop?_cases (hsound.inRange name)
  · rw [hpop] at hpopped
    apply simulated_of_unchanged hsound rfl hpopped
    rw [ListBench.perform, stack_view, hlist]
  · rw [hpop] at hpopped
    apply simulated_of_place name hsound (hsound.makes htail) hpopped
    · rw [ListBench.perform, stack_view, hlist]
    · rfl

theorem Sound.simulated_head (hsound : bench.Sound) (name : StackName) :
    bench.Simulated (.head name) := by
  have hread := perform_head bench name
  obtain ⟨hhead, -, hlist⟩ | ⟨value, tail, hhead, -, hlist, -⟩ :=
    Arena.head?_pop?_cases (hsound.inRange name)
  · rw [hhead] at hread
    apply simulated_of_unchanged hsound rfl hread
    rw [ListBench.perform, stack_view, hlist]
  · rw [hhead] at hread
    apply simulated_of_unchanged hsound rfl hread
    rw [ListBench.perform, stack_view, hlist]

/-- Every act is simulated on lists. -/
theorem Sound.simulated (hsound : bench.Sound) (act : StackAct α) : bench.Simulated act := by
  cases act with
  | push name value => exact hsound.simulated_push name value
  | pop name => exact hsound.simulated_pop name
  | update name value => exact hsound.simulated_update name value
  | head name => exact hsound.simulated_head name
  | iterate name =>
      apply simulated_of_unchanged hsound rfl (perform_iterate bench name)
      rw [ListBench.perform, stack_view]
  | get =>
      exact simulated_of_place (.obtained bench.obtained.length) hsound
        (hsound.makes (hsound.inRange .current)) rfl rfl rfl
  | set number =>
      apply simulated_of_place .current hsound
        (hsound.makes (hsound.inRange (.obtained number))) rfl
      · rw [ListBench.perform, stack_view]
        rfl
      · rfl

/-! ### Acts one after the other -/

/-- What holds of every act holds of all acts together. -/
theorem Sound.run_simulated (hsound : bench.Sound) (acts : List (StackAct α)) :
    (bench.run acts).1 = (bench.view.run acts).1 ∧
      (bench.run acts).2.view = (bench.view.run acts).2 ∧
      (bench.run acts).2.Sound ∧
      bench.arena.Extends (bench.run acts).2.arena ∧
      (bench.run acts).2.arena.size = bench.arena.size + acts.countP StackAct.adds := by
  induction acts generalizing bench with
  | nil => exact ⟨rfl, rfl, hsound, .refl _, rfl⟩
  | cons act acts ih =>
      have hact := hsound.simulated act
      obtain ⟨hanswers, hview, hlater, hkept, hsize⟩ := ih hact.sound
      rw [hact.view] at hanswers hview
      refine ⟨?_, hview, hlater, hact.kept.trans hkept, ?_⟩
      · exact List.cons_eq_cons.mpr ⟨hact.answer, hanswers⟩
      · rw [List.countP_cons, Nat.add_comm (acts.countP _), ← Nat.add_assoc, ← hact.size]
        exact hsize

/-- The stacks at hand after some acts, the first of which finds none but the empty one. -/
def after (acts : List (StackAct α)) : Bench α :=
  (empty.run acts).2

theorem after_append (acts more : List (StackAct α)) :
    after (acts ++ more) = ((after acts).run more).2 :=
  StackAct.runWith_append perform empty acts more

theorem sound_after (acts : List (StackAct α)) : (after acts).Sound :=
  (sound_empty.run_simulated acts).2.2.1

end Bench

/-- The lists after some acts, the first of which finds none but the empty one. -/
def ListBench.after {α : Type} (acts : List (StackAct α)) : ListBench α :=
  (empty.run acts).2

variable {α : Type}

/-- The stacks of an arena are lists: every act is answered as on lists, and every handle stands for
the list that was put in its place when it was obtained, whatever is done later; iterating it ends
and passes that list. Equal handles stand for equal lists, and the arena has one node for every push
and update. -/
theorem stacks_as_lists (acts more : List (StackAct α)) :
    (Bench.empty.run acts).1 = (ListBench.empty.run acts).1 ∧
      (Bench.after acts).view = ListBench.after acts ∧
      (∀ name,
        (Bench.after (acts ++ more)).arena.toList ((Bench.after acts).stack name) =
            (ListBench.after acts).stack name ∧
          (Bench.after (acts ++ more)).arena.Iterates ((Bench.after acts).stack name)
            ((ListBench.after acts).stack name)) ∧
      (∀ name other, (Bench.after acts).stack name = (Bench.after acts).stack other →
        (ListBench.after acts).stack name = (ListBench.after acts).stack other) ∧
      (Bench.after acts).arena.size = acts.countP StackAct.adds := by
  have hempty : (Bench.empty : Bench α).view = ListBench.empty := rfl
  have hsound := Bench.sound_after acts
  obtain ⟨hanswers, hview, -, -, hsize⟩ := Bench.sound_empty.run_simulated acts
  rw [hempty] at hanswers hview
  have hlist : ∀ name, (ListBench.after acts).stack name =
      (Bench.after acts).arena.toList ((Bench.after acts).stack name) := by
    intro name
    rw [← Bench.stack_view]
    exact congrArg (ListBench.stack · name) hview.symm
  refine ⟨hanswers, hview, ?_, ?_, ?_⟩
  · intro name
    obtain ⟨-, -, hlater, hkept, -⟩ := hsound.run_simulated more
    rw [Bench.after_append, hlist]
    obtain ⟨hrange, hsame⟩ := hkept _ (hsound.inRange name)
    constructor
    · exact hsame
    · rw [← hsame]
      exact hlater.ordered.iterates hrange
  · intro name other hequal
    rw [hlist, hlist, hequal]
  · rw [Bench.after, hsize]
    exact Nat.zero_add _

/-- A stack of one value, two stacks upon it, what is left of these two without their heads, and one
of them with another head. -/
def sharedTails : List (StackAct Nat) :=
  [.push .current 1, .get, .push (.obtained 0) 2, .push (.obtained 0) 3, .pop (.obtained 1),
    .pop (.obtained 2), .update (.obtained 2) 4]

/-- Popping both stacks leads to one handle, an update changes neither of them, and neither does
what comes later. -/
theorem sharedTails_as_lists :
    ListBench.after sharedTails = ⟨[1], [[1], [2, 1], [3, 1], [1], [1], [4, 1]]⟩ ∧
      (Bench.after sharedTails).view = ListBench.after sharedTails ∧
      (Bench.after (sharedTails ++ [.pop .current, .update (.obtained 2) 5])).arena.Iterates
        ((Bench.after sharedTails).stack (.obtained 2)) [3, 1] ∧
      (Bench.after sharedTails).stack (.obtained 3) =
        (Bench.after sharedTails).stack (.obtained 4) ∧
      (ListBench.after sharedTails).stack (.obtained 3) =
        (ListBench.after sharedTails).stack (.obtained 4) ∧
      (Bench.after sharedTails).arena.size = 4 := by
  obtain ⟨-, hview, hkept, hequal, hsize⟩ :=
    stacks_as_lists sharedTails [.pop .current, .update (.obtained 2) 5]
  have hsame : (Bench.after sharedTails).stack (.obtained 3) =
      (Bench.after sharedTails).stack (.obtained 4) := by
    decide +kernel
  exact ⟨by decide +kernel, hview, (hkept (.obtained 2)).2, hsame, hequal _ _ hsame, hsize⟩

end Workflow
