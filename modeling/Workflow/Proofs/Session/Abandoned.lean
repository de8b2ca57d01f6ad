import Workflow.Proofs.Session.Backward

/-!
# Tasks whose scope is released

The program around a session may still hold a task after going back has released its scope.  Filling
in such a task or answering it changes nothing that is in use, `Session.Inert`.  A click is not held
back as well as that, `Session.Stale`: the buttons of the screen still work.  A request to go back
is looked at as one from an open screen is, and is handled if the flow that declared the screen is
the innermost one.  And if that flow was left with the screen as its child, the screen is still
recorded when it is completed, because the child of a flow that is left is not forgotten.
-/

namespace Workflow.Session

/-- Nothing that is in use has changed, and no event was added. -/
structure Inert (s s' : Session) : Prop where
  active : s'.active = s.active
  history : s'.history = s.history
  flows : ∀ id, s'.flowAt? id = s.flowAt? id
  scopes : ∀ scope, s.Opened scope → s'.scopeAt? scope = s.scopeAt? scope
  events : s'.events = s.events

/-- What a click on a task with a released scope comes to. -/
inductive Stale (s : Session) (id : TaskId) (task : Task) : Session → Prop
  /-- Nothing. -/
  | inert {s' : Session} (hinert : s.Inert s') : Stale s id task s'
  /-- A request to go back, which is refused. -/
  | refused {r : Session} (hbefore : s.Inert r) :
      Stale s id task (r.emit (.backAsked task.name false))
  /-- A request to go back, which is handled because the task belongs to the innermost flow. -/
  | returned {r s' : Session} {entry : Visit} (hbefore : s.Inert r)
      (hrequest : r.FromInnermost task) (hentry : r.history.head? = some entry)
      (hback : WentBack r s' task entry) : Stale s id task s'
  /-- A record for the flow that declared the task, which has been left with this task open. -/
  | recorded {r s' : Session} {owner : TaskId} {flow : Flow} {child : Child}
      (hbefore : s.Inert r) (howner : task.owner = some owner) (hidle : ¬s.OnStack owner)
      (hflow : s.flowAt? owner = some flow) (hcurrent : flow.current = some child)
      (hchild : child.task = id)
      (hafter : (r.remember flow (r.visitAt owner flow child task.name)).Inert s') :
      Stale s id task s'

section

variable {s s' : Session} {id : TaskId} {task : Task}

theorem fillIn_still (s : Session) (id : TaskId) (field : String) (value : Value) :
    Still id s (s.fillIn id field value).2 := by
  rcases fillIn_cases s id field value with hsame | ⟨task, old, new, htask, hactivity, hkept, hset⟩
  · rw [hsame]
    exact .refl s id
  · rw [hset]
    exact .screenSet new htask hactivity hkept

theorem answer_still (s : Session) (id : TaskId) (value : Value) :
    Still id s (s.answer id value).2 := by
  rcases answer_cases s id value with hsame | ⟨task, call, patch, htask, hcall, -, hanswer⟩
  · rw [hsame]
    exact .refl s id
  · rw [hanswer]
    exact .left patch htask (Task.takesInput_of_remoteCall hcall)

/-- What concerns a task with a released scope alone changes nothing in use. -/
theorem Still.inert (hstill : Still id s s') (htask : s.taskAt? id = some task)
    (hreleased : s.Released task.scope) : s.Inert s' where
  active := hstill.quiet.active
  history := hstill.history
  flows := hstill.quiet.flowAt?_eq (Moves.grows hstill.acts.moves)
  scopes := by
    intro scope hopened
    rcases hstill.quiet.scopes scope with hsame | ⟨found, hfound, -, hscope⟩
    · exact hsame
    · rw [htask] at hfound
      cases hfound
      subst hscope
      exact absurd hopened hreleased.not_opened
  events := hstill.events

/-- The child of a flow that is being run is in use. -/
theorem Wired.inUse_child (hwired : s.Wired) {owner : TaskId} {flow : Flow} {child : Child}
    (hrunning : s.OnStack owner) (hflow : s.flowAt? owner = some flow)
    (hcurrent : flow.current = some child) (htask : s.taskAt? child.task = some task) :
    s.InUse task.scope := by
  obtain ⟨own, hmem, hbound⟩ := hrunning
  obtain ⟨inner, hinner, hscope, -⟩ := (hwired.linked hflow).child hcurrent
  rw [htask] at hinner
  cases hinner
  exact ⟨own, hmem, owner, flow, hbound, hflow, .inr (.inr ⟨child, hcurrent, hscope.symm⟩)⟩

/-- Acts on a task leave its name, its scope and its owner, and a released scope released. -/
theorem Still.keeps_released (hstill : Still id s s') (haccounted : s.Accounted)
    (htask : s.taskAt? id = some task) (hreleased : s.Released task.scope) :
    ∃ task', s'.taskAt? id = some task' ∧ task'.name = task.name ∧ task'.owner = task.owner ∧
      s'.Released task'.scope := by
  obtain ⟨task', htask', hskeleton, -⟩ := (Moves.grows hstill.acts.moves).tasks htask
  refine ⟨task', htask', Task.name_of_skeleton hskeleton, Task.owner_of_skeleton hskeleton, ?_⟩
  rw [Task.scope_of_skeleton hskeleton]
  exact (Acts.retains hstill.acts haccounted).released _ hreleased

theorem Clicked.stale (hclicked : Clicked s id s') (haccounted : s.Accounted)
    (htask : s.taskAt? id = some task) (hreleased : s.Released task.scope) :
    Stale s id task s' := by
  cases hclicked with
  | still hstill => exact .inert (hstill.inert htask hreleased)
  | @recorded r _ flow entry hbefore hvisit hafter =>
      obtain ⟨task', htask', hname, howner, hreleased'⟩ :=
        hbefore.keeps_released haccounted htask hreleased
      obtain ⟨found, owner, child, hfound, howned, hflow, hcurrent, hchild, rfl⟩ :=
        visitOf_eq_some hvisit
      rw [htask'] at hfound
      cases hfound
      have hinert := hbefore.inert htask hreleased
      have hflow' : s.flowAt? owner = some flow := (hinert.flows owner).symm.trans hflow
      refine .recorded hinert (howner.symm.trans howned) (fun hrunning => ?_) hflow' hcurrent
        hchild (hname ▸ hafter.inert htask' hreleased')
      have hinUse := haccounted.sound.wired.inUse_child hrunning hflow' hcurrent (hchild ▸ htask)
      rw [← haccounted.sound.mem_held_iff, ← haccounted.exact] at hinUse
      exact hreleased.not_opened hinUse
  | @refused r found hbefore hfound =>
      obtain ⟨task', htask', hname, -⟩ := hbefore.keeps_released haccounted htask hreleased
      rw [htask'] at hfound
      cases hfound
      exact hname ▸ .refused (hbefore.inert htask hreleased)
  | @returned r found entry target hbefore hfound hentry htarget =>
      obtain ⟨task', htask', hname, howner, -⟩ :=
        hbefore.keeps_released haccounted htask hreleased
      rw [htask'] at hfound
      cases hfound
      have hsound := Moves.sound hbefore.acts.moves haccounted.sound
      obtain ⟨head, innermost, hhead, hbound, hrequester⟩ :=
        (hsound.exists_returnTarget?_iff.mp ⟨target, htarget⟩).1
      have hback := hsound.wentBack hentry htarget
      refine .returned (hbefore.inert htask hreleased)
        ⟨head, innermost, hhead, hbound, howner.symm.trans hrequester⟩ hentry
        { hback with announced := ?_ }
      rw [hback.announced, hname]

end

/-- On a task whose scope is released, setting a field and giving a result change nothing in use.
A click changes nothing either, unless it asks to go back, or completes the screen and the flow that
declared it has been left. -/
theorem inert_or_stale {s : Session} {id : TaskId} {task : Task} (hdriven : s.Driven)
    (htask : s.taskAt? id = some task) (hreleased : s.Released task.scope) :
    (∀ field value, s.Inert (s.fillIn id field value).2) ∧
      (∀ value, s.Inert (s.answer id value).2) ∧
      ∀ component, Stale s id task (s.click id component).2 := by
  have haccounted := hdriven.accounted.1
  refine ⟨fun field value => ?_, fun value => ?_, fun component => ?_⟩
  · exact (fillIn_still s id field value).inert htask hreleased
  · exact (answer_still s id value).inert htask hreleased
  · exact (click_clicked s id component).stale haccounted htask hreleased

/-- A document that shows a screen, and then three more in a flow of their own. -/
def detourDocument : Document where
  repository :=
    { components := [actionButton "next", actionButton "back"]
      validators := []
      flows := [
        ("main", { tasks := [
                     twoWayScreen "welcome",
                     { name := "detour", preconditions := [], action := .flow .once none }],
                   settings := {} }),
        ("detour", { tasks := [twoWayScreen "first", twoWayScreen "second", twoWayScreen "third"],
                     settings := {} })] }
  startingFlow := "main"
  context := .object []
  hash := none

/-- The session of `detourDocument` that shows the first screen of the second flow. -/
def detourFirst : Session :=
  ((initial detourDocument {} true {}).pull.2.click ⟨1⟩ "next").2.pull.2

def firstLeft : Session :=
  (detourFirst.click ⟨3⟩ "back").2

/-- The session that has gone on to the third screen and has gone back from it. -/
def thirdLeft : Session :=
  ((((detourFirst.click ⟨3⟩ "next").2.pull.2.click ⟨4⟩ "next").2.pull.2).click ⟨5⟩ "back").2

theorem firstLeft_driven : firstLeft.Driven :=
  Reachable.driven (reachable_carryOut [.pull, .click ⟨1⟩ "next", .pull, .click ⟨3⟩ "back"]
    (by decide +kernel) rfl (by decide +kernel))

theorem thirdLeft_driven : thirdLeft.Driven :=
  Reachable.driven (reachable_carryOut
    [.pull, .click ⟨1⟩ "next", .pull, .click ⟨3⟩ "next", .pull, .click ⟨4⟩ "next", .pull,
      .click ⟨5⟩ "back"] (by decide +kernel) rfl (by decide +kernel))

/-- The two screens that were gone back from do nothing but what their buttons ask for. -/
theorem left_inert_or_stale :
    (∃ task, firstLeft.taskAt? ⟨3⟩ = some task ∧
        (∀ field value, firstLeft.Inert (firstLeft.fillIn ⟨3⟩ field value).2) ∧
        ∀ component, Stale firstLeft ⟨3⟩ task (firstLeft.click ⟨3⟩ component).2) ∧
      ∃ task, thirdLeft.taskAt? ⟨5⟩ = some task ∧
        (∀ field value, thirdLeft.Inert (thirdLeft.fillIn ⟨5⟩ field value).2) ∧
        ∀ component, Stale thirdLeft ⟨5⟩ task (thirdLeft.click ⟨5⟩ component).2 := by
  have hfirst := Option.eq_some_of_isSome
    (show (firstLeft.taskAt? ⟨3⟩).isSome by decide +kernel)
  have hthird := Option.eq_some_of_isSome
    (show (thirdLeft.taskAt? ⟨5⟩).isSome by decide +kernel)
  obtain ⟨hfilled, -, hclicked⟩ := inert_or_stale firstLeft_driven hfirst (by decide +kernel)
  obtain ⟨hfilled', -, hclicked'⟩ := inert_or_stale thirdLeft_driven hthird (by decide +kernel)
  exact ⟨⟨_, hfirst, hfilled, hclicked⟩, _, hthird, hfilled', hclicked'⟩

/-- A second request from the screen that was gone back from goes back a second time, and
completing a screen of a flow that was left makes a record. -/
theorem left_not_inert :
    (∃ task, thirdLeft.taskAt? ⟨5⟩ = some task ∧ thirdLeft.Released task.scope ∧
        (thirdLeft.click ⟨5⟩ "back").1 = .ok () ∧ thirdLeft.historyDepth = 2 ∧
        (thirdLeft.click ⟨5⟩ "back").2.historyDepth = 1) ∧
      ∃ task, firstLeft.taskAt? ⟨3⟩ = some task ∧ firstLeft.Released task.scope ∧
        (firstLeft.click ⟨3⟩ "next").1 = .ok () ∧ firstLeft.historyDepth = 0 ∧
        (firstLeft.click ⟨3⟩ "next").2.historyDepth = 1 :=
  ⟨⟨(thirdLeft.taskAt? ⟨5⟩).get (by decide +kernel), by decide +kernel⟩,
    (firstLeft.taskAt? ⟨3⟩).get (by decide +kernel), by decide +kernel⟩

end Workflow.Session
