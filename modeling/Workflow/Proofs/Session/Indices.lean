import Workflow.Proofs.Session.Positions
import Workflow.Proofs.Session.Resolution

/-!
# Places that are there

Tasks, scopes, flows, records and stacks name each other by places.  `Session.Indexed` says that no
place leads out of what it is a place in: a task names a scope that was opened and a flow that owns
it, a flow stands among its declared tasks, and every node of the two stacks lies above its tail.

Most of this is wiring, nesting and placing, put together.  What is new is `Session.Stacked`, about
all nodes and not only those of the current stacks; it is kept because a turn or an act only pushes
on a stack or pops it, and unwinding only pops.
-/

namespace Workflow.Session

variable {s s' : Session}

/-! ## The two stacks -/

/-- The stack of flows and that of records are there, with all stacks below them. -/
structure Stacked (s : Session) : Prop where
  active : s.active.Linked
  history : s.history.Linked

/-- Unwinding only pops. -/
theorem linked_unwindTo {target : ScopeId} {scopes : List ScopeId} (hlinked : s.active.Linked) :
    (unwindTo target scopes s).active.Linked := by
  induction scopes generalizing s with
  | nil => exact hlinked
  | cons scope scopes ih =>
      rw [unwindTo]
      split_ifs
      · exact hlinked
      · refine ih ?_
        rw [(abandon_others s scope).2.2.2.2.1]
        exact hlinked.pop

theorem Turned.stacked {result : Except Error Turn} (hturned : s.Turned result s')
    (hstacked : s.Stacked) : s'.Stacked := by
  obtain ⟨hhistory, -, hcursor⟩ := hturned.cursors
  refine ⟨?_, hhistory ▸ hstacked.history⟩
  rcases hcursor with hactive | ⟨hactive, -, -⟩ | ⟨-, -, -, child, -, -, -, -, hactive, -⟩
  · exact hactive ▸ hstacked.active
  · exact hactive ▸ hstacked.active.pop
  · exact hactive ▸ hstacked.active.push child.scope

theorem Act.stacked {id : TaskId} (hact : Act id s s') (hstacked : s.Stacked) : s'.Stacked := by
  cases hact with
  | recorded => exact ⟨hstacked.active, hstacked.history.push _⟩
  | @returned _ entry target =>
      have hothers := restore_others s target entry
      constructor
      · change (s.restore target entry).active.Linked
        rw [hothers.2.2.2.1]
        exact linked_unwindTo hstacked.active
      · change (s.restore target entry).history.Linked
        rw [hothers.2.2.2.2.1]
        exact hstacked.history.pop
  | _ => exact ⟨hstacked.active, hstacked.history⟩

/-! ## Everything that is named -/

def HasFlow (s : Session) (id : TaskId) : Prop :=
  ∃ flow, s.flowAt? id = some flow

/-- What a flow names is there: its declaration, its pass, and its child with the declaration of the
child. -/
structure IndexedFlow (s : Session) (flow : Flow) (tasks : List TaskDecl) : Prop where
  declared : s.Declares flow tasks
  cursor : flow.cursor ≤ tasks.length
  pass : ∀ pass, flow.pass = some pass → pass.index < s.scopes.size
  child : ∀ child, flow.current = some child → child.task.index < s.tasks.size ∧
    child.scope.index < s.scopes.size ∧ child.place < tasks.length

/-- Every place that a session names is there. -/
structure Indexed (s : Session) : Prop where
  root : s.HasFlow s.root
  tasks : ∀ ⦃id task⦄, s.taskAt? id = some task → task.scope.index < s.scopes.size ∧
    ∀ owner, task.owner = some owner → s.HasFlow owner
  flows : ∀ ⦃id flow⦄, s.flowAt? id = some flow → ∃ tasks, s.IndexedFlow flow tasks
  scopes : ∀ ⦃place scope⦄, s.scopeAt? place = some scope →
    (∀ id, scope.task = some id → id.index < s.tasks.size) ∧
      ∀ id, scope.flow = some id → s.HasFlow id
  active : ∀ scope ∈ s.active.toList, scope.index < s.scopes.size
  history : ∀ visit ∈ s.history.toList, ∃ flow tasks, s.flowAt? visit.flow = some flow ∧
    s.Declares flow tasks ∧ visit.mark.cursor < tasks.length
  stacked : s.Stacked

theorem hasFlow_of_isFlow {id : TaskId} {task : Task} (htask : s.taskAt? id = some task)
    (hisFlow : task.isFlow = true) : s.HasFlow id := by
  obtain ⟨flow, hflow⟩ := Option.isSome_iff_exists.mp hisFlow
  exact ⟨flow, flowAt?_eq_some_iff.mpr ⟨task, htask, hflow⟩⟩

/-- A task that a scope is bound to is there, and if it is bound as a flow it is one. -/
theorem Wired.indexed_scope (hwired : s.Wired) {place : ScopeId} {scope : Scope}
    (hscope : s.scopeAt? place = some scope) :
    (∀ id, scope.task = some id → id.index < s.tasks.size) ∧
      ∀ id, scope.flow = some id → s.HasFlow id := by
  have hbinding : s.bindingAt? place = some scope.binding :=
    bindingAt?_eq_some_iff.mpr ⟨scope, hscope, rfl⟩
  cases htask : scope.task with
  | none =>
      have hfree : scope.flow = none := hwired.free hbinding htask
      rw [hfree]
      exact ⟨fun _ h => (nomatch h), fun _ h => (nomatch h)⟩
  | some id =>
      obtain ⟨task, hthere, hplace⟩ := hwired.taken hbinding htask
      obtain ⟨parent, hbound⟩ := hwired.bound hthere
      rw [hplace, hbinding] at hbound
      have hflow : scope.flow = if task.isFlow then some id else none :=
        congrArg Scope.Binding.flow (Option.some.inj hbound)
      constructor
      · intro other hother
        cases hother
        exact taskAt?_lt hthere
      · intro other hother
        rw [hflow] at hother
        split_ifs at hother with hisFlow
        cases hother
        exact hasFlow_of_isFlow hthere hisFlow

/-- The scopes of the flows being run were opened. -/
theorem Nested.lt_size {id : TaskId} {scopes : List ScopeId} (hnested : s.Nested id scopes)
    (hwired : s.Wired) : ∀ scope ∈ scopes, scope.index < s.scopes.size := by
  obtain ⟨task, htask, -⟩ := hnested.isFlow hwired
  obtain ⟨outer, rfl⟩ := hnested.eq_cons hwired
  have hown := hwired.scopeOf_lt htask
  intro scope hmem
  rcases List.mem_cons.mp hmem with rfl | houter
  · exact hown
  · exact Nat.lt_trans (hnested.lt hwired scope houter) hown

theorem Wired.indexed_flow (hwired : s.Wired) {id : TaskId} {flow : Flow} {tasks : List TaskDecl}
    (hflow : s.flowAt? id = some flow) (hdeclares : s.Declares flow tasks)
    (hplaced : flow.Placed tasks) : s.IndexedFlow flow tasks where
  declared := hdeclares
  cursor := hplaced.cursor
  pass := fun _ hpass => bindingAt?_lt ((hwired.linked hflow).pass hpass).1
  child := by
    intro child hcurrent
    obtain ⟨inner, hinner, hscope, -⟩ := (hwired.linked hflow).child hcurrent
    have hlt := hwired.scopeOf_lt hinner
    rw [scopeOf_eq_of_taskAt? hinner, hscope] at hlt
    exact ⟨taskAt?_lt hinner, hlt, hplaced.child child hcurrent⟩

theorem Sound.indexed (hsound : s.Sound) (hplaced : s.Placed) (hstacked : s.Stacked) :
    s.Indexed where
  root := by
    obtain ⟨task, htask, hisFlow, -⟩ := hsound.wired.rooted
    exact hasFlow_of_isFlow htask hisFlow
  tasks := by
    intro id task htask
    refine ⟨scopeOf_eq_of_taskAt? htask ▸ hsound.wired.scopeOf_lt htask, fun owner howner => ?_⟩
    obtain ⟨-, outer, houter, hisFlow, -⟩ := hsound.wired.owned htask howner
    exact hasFlow_of_isFlow houter hisFlow
  flows := by
    intro id flow hflow
    obtain ⟨tasks, hdeclares, hplace⟩ := hplaced.flows hflow
    exact ⟨tasks, hsound.wired.indexed_flow hflow hdeclares hplace⟩
  scopes := fun _ _ hscope => hsound.wired.indexed_scope hscope
  active := by
    rcases hsound.nested with hempty | ⟨id, hnested⟩
    · rw [hempty]
      exact fun _ hmem => nomatch hmem
    · exact hnested.lt_size hsound.wired
  history := by
    intro visit hmem
    obtain ⟨flow, tasks, hflow, hdeclares, hplace⟩ := hplaced.visits visit hmem
    exact ⟨flow, tasks, hflow, hdeclares, hplace.cursor⟩
  stacked := hstacked

/-! ## Secure sessions -/

/-- What a session rests on when it looks something up: its places are there and its names are
declared. -/
structure Secure (s : Session) : Prop where
  sound : s.Sound
  placed : s.Placed
  resolved : s.Resolved
  stacked : s.Stacked

theorem Secure.indexed (hsecure : s.Secure) : s.Indexed :=
  hsecure.sound.indexed hsecure.placed hsecure.stacked

theorem Move.secure (hmove : Move s s') (hsecure : s.Secure) : s'.Secure where
  sound := hmove.sound hsecure.sound
  placed := hmove.placed hsecure.sound hsecure.placed
  resolved := hmove.resolved hsecure.resolved
  stacked := by
    cases hmove with
    | turn hturn => exact (turned hturn).stacked hsecure.stacked
    | act hact => exact hact.stacked hsecure.stacked
    | breakpoint name => exact ⟨hsecure.stacked.active, hsecure.stacked.history⟩

theorem Moves.secure (hmoves : Relation.ReflTransGen Move s s') (hsecure : s.Secure) :
    s'.Secure := by
  induction hmoves with
  | refl => exact hsecure
  | tail _ hmove ih => exact hmove.secure ih

theorem Drives.secure (hdrives : s.Drives s') (hsecure : s.Secure) : s'.Secure := by
  induction hdrives with
  | refl => exact hsecure
  | @tail r _ _ hdrive ih =>
      cases hdrive with
      | operated hstep => exact Moves.secure hstep.moves ih
      | requeued events =>
          have halike := alike_requeue r events
          exact ⟨halike.sound ih.sound, halike.placed ih.placed,
            ih.resolved.of_grows halike.grows rfl, ih.stacked.active, ih.stacked.history⟩

/-- A document without a fault can be run. -/
theorem exists_start {document : Document} (hfault : document.fault? = none)
    (settings : SessionSettings) (ownsEvents : Bool) :
    ∃ start, Session.start document settings ownsEvents = .ok start := by
  obtain ⟨-, hnamed, -⟩ := Document.fault?_eq_none_iff.mp hfault
  obtain ⟨declared, hdeclared⟩ := Option.isSome_iff_exists.mp hnamed
  refine ⟨initial document settings ownsEvents declared.settings, ?_⟩
  rw [Session.start, Document.checked, hfault]
  dsimp only [bind, Except.bind]
  rw [hdeclared]
  rfl

theorem start_secure {document : Document} {settings : SessionSettings} {ownsEvents : Bool}
    (hstart : Session.start document settings ownsEvents = .ok s) : s.Secure := by
  have hfault := fault?_of_start hstart
  obtain ⟨declared, hdeclared, rfl⟩ := start_eq hstart
  refine ⟨initial_sound _ _ _ _, initial_placed hdeclared, initial_resolved hfault hdeclared, ?_⟩
  exact ⟨Cursor.linked_empty.push _, Cursor.linked_empty⟩

end Workflow.Session
