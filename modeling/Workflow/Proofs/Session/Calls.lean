import Workflow.Proofs.Failures.Values
import Workflow.Proofs.Session.Moments
import Workflow.Proofs.Session.Redirecting

/-!
# Remote calls that expect no result

A remote call without a destination waits for nothing.  The turn that runs it emits it, once, and
completes it.  The program around the session can have such a call handed out, by a breakpoint, and
answer it: then the call is complete, never runs, and is not emitted.  A call with a destination is
completed by its answer and is not emitted either.

`Session.Logs` is a run with all its events, each with the task that it is about: the open child of
the innermost flow in a turn, and otherwise the task that was acted on.  It also lists the calls
that were answered.
-/

namespace Workflow

def Event.call? : Event → Option (String × Value)
  | .remoteCall endpoint payload => some (endpoint, payload)
  | _ => none

def Task.call? (task : Task) : Option (RemoteCall × Bool) :=
  match task.activity with
  | .remoteCall call => some (call, task.complete)
  | _ => none

theorem Task.call?_eq_some_iff {task : Task} {call : RemoteCall} {complete : Bool} :
    task.call? = some (call, complete) ↔
      task.activity = .remoteCall call ∧ task.complete = complete := by
  unfold call?
  cases hsort : task.activity <;> simp

theorem Task.call?_of_isFlow {task : Task} (hflow : task.isFlow = true) : task.call? = none := by
  obtain ⟨flow, hruns⟩ := Option.isSome_iff_exists.mp hflow
  rw [flow?_eq_some_iff] at hruns
  rw [call?, hruns]

@[simp] theorem Task.call?_mapFlow (change : Flow → Flow) (task : Task) :
    (task.mapFlow change).call? = task.call? := by
  obtain ⟨name, scope, owner, complete, activity⟩ := task
  cases activity <;> rfl

namespace Session

/-- The remote call at an id, and whether it is complete. -/
def callAt? (s : Session) (id : TaskId) : Option (RemoteCall × Bool) :=
  (s.taskAt? id).bind Task.call?

/-- The task that a turn is about: the open child of the innermost flow. -/
def attended? (s : Session) : Option TaskId :=
  (s.active.head?.bind fun scope => (s.scope scope).flow).bind fun owner =>
    ((s.flowAt? owner).bind Flow.current).map Child.task

/-- A turn, or an operation of the program around a session, with the task that it is about and the
remote calls that it answers. -/
inductive Deed (s : Session) : Option TaskId → List TaskId → Session → Prop
  | turned {result : Except Error Turn} {s' : Session} (hturn : s.turn = (result, s')) :
      Deed s s.attended? [] s'
  | filledIn (id : TaskId) (field : String) (value : Value) :
      Deed s (some id) [] (s.fillIn id field value).2
  | clicked (id : TaskId) (component : String) : Deed s (some id) [] (s.click id component).2
  | answered (id : TaskId) (value : Value) (hdone : (s.answer id value).1 = .ok ()) :
      Deed s (some id) [id] (s.answer id value).2
  | refused (id : TaskId) (value : Value) (hdone : (s.answer id value).1 ≠ .ok ()) :
      Deed s (some id) [] (s.answer id value).2
  | breakpointSet (name : String) : Deed s none [] (s.setBreakpoint name)

/-- A run with its events, each with the task that it is about, and with the remote calls that it
answers.  The queue of events may be taken or replaced at any time. -/
inductive Logs (start : Session) : List (Option TaskId × Event) → List TaskId → Session → Prop
  | started : Logs start [] [] start
  | deed {log : List (Option TaskId × Event)} {answered accepted : List TaskId} {r s : Session}
      {about : Option TaskId} {new : List Event} (hbefore : Logs start log answered r)
      (hdeed : Deed r about accepted s) (hnew : s.events.toList = r.events.toList ++ new) :
      Logs start (log ++ new.map (Prod.mk about)) (answered ++ accepted) s
  | requeued {log : List (Option TaskId × Event)} {answered : List TaskId} {r : Session}
      (hbefore : Logs start log answered r) (events : Array Event) :
      Logs start log answered { r with events }

/-- The remote calls in a log that are about a task. -/
def callsOf (id : TaskId) (log : List (Option TaskId × Event)) : List (String × Value) :=
  log.filterMap fun entry => if entry.1 = some id then entry.2.call? else none

/-- What a deed does to remote calls: it opens some and emits none, it runs one that expects no
result, or it answers one. -/
inductive Handles (s s' : Session) :
    Option TaskId → List TaskId → List Event → Prop
  | opens {about : Option TaskId} {new : List Event}
      (hcalls : ∀ id, s'.callAt? id = s.callAt? id ∨
        s.taskAt? id = none ∧ ∃ call, s'.callAt? id = some (call, false))
      (hnew : ∀ event ∈ new, event.call? = none) : Handles s s' about [] new
  | runs {id : TaskId} {call : RemoteCall} (hbefore : s.callAt? id = some (call, false))
      (hexpects : call.destination = none)
      (hcalls : ∀ other, s'.callAt? other =
        if id = other then some (call, true) else s.callAt? other) :
      Handles s s' (some id) [] [.remoteCall call.endpoint call.payload]
  | answers {id : TaskId} {call : RemoteCall} (hbefore : s.callAt? id = some (call, false))
      (hcalls : ∀ other, s'.callAt? other =
        if id = other then some (call, true) else s.callAt? other) :
      Handles s s' (some id) [id] []

section

variable {s s' : Session} {id : TaskId}

/-! ## The remote calls of a session -/

theorem callAt?_of_taskAt? {task : Task} (htask : s.taskAt? id = some task) :
    s.callAt? id = task.call? := by
  rw [callAt?, htask]
  rfl

theorem callAt?_modifyFlow (s : Session) (owner : TaskId) (change : Flow → Flow) (id : TaskId) :
    (s.modifyFlow owner change).callAt? id = s.callAt? id := by
  rw [callAt?, taskAt?_modifyFlow, callAt?]
  split_ifs
  · cases s.taskAt? id <;> simp
  · rfl

theorem callAt?_concluded (s : Session) (owner : TaskId) (mark : Bool) (id : TaskId) :
    (s.concluded owner mark).callAt? id = s.callAt? id := by
  unfold concluded
  split_ifs
  · exact callAt?_modifyFlow s owner _ id
  · rfl

theorem callAt?_foldChild (s : Session) (owner : TaskId) (child : Child) (id : TaskId) :
    (s.foldChild owner child).callAt? id = s.callAt? id := by
  unfold foldChild
  dsimp only
  rw [callAt?_modifyFlow]
  split <;> rfl

theorem callAt?_complete (s : Session) (done id : TaskId) :
    (s.complete done).callAt? id =
      if done = id then (s.callAt? id).map fun found => (found.1, true) else s.callAt? id := by
  rw [callAt?, taskAt?_complete, callAt?]
  split_ifs
  · cases s.taskAt? id with
    | none => rfl
    | some task =>
        obtain ⟨name, scope, owner, complete, activity⟩ := task
        cases activity <;> rfl
  · rfl

/-- Completing a task that is no remote call is not seen. -/
theorem callAt?_complete_of_eq_none {done : TaskId} (hnone : s.callAt? done = none) (id : TaskId) :
    (s.complete done).callAt? id = s.callAt? id := by
  rw [callAt?_complete]
  split_ifs with hself
  · rw [← hself, hnone]
    rfl
  · rfl

theorem Handles.nothing {about : Option TaskId} {new : List Event}
    (hcalls : ∀ id, s'.callAt? id = s.callAt? id) (hnew : ∀ event ∈ new, event.call? = none) :
    Handles s s' about [] new :=
  .opens (fun id => .inl (hcalls id)) hnew

/-! ## What turns and operations do to them -/

theorem AtChild.attended? {scope : ScopeId} {owner : TaskId} {flow : Flow} {child : Child}
    {inner : Task} (hat : s.AtChild scope owner flow child inner) :
    s.attended? = some child.task := by
  obtain ⟨task, hwork⟩ := hat.working
  rw [Session.attended?, hwork.head, Option.bind_some, hwork.bound, Option.bind_some,
    hwork.flowAt?, Option.bind_some, hat.current]
  rfl

/-- Running a task emits the call that it is, or no call. -/
theorem effect_calls {task : Task} (hinput : task.requiresInput = false)
    (hopen : task.complete = false) (heffect : s.effect task = .ok s') :
    (∀ id, s'.callAt? id = s.callAt? id) ∧
      ((∃ call, task.activity = .remoteCall call ∧ call.destination = none ∧
          s'.events = s.events.push (.remoteCall call.endpoint call.payload)) ∨
        task.call? = none ∧ (s'.events = s.events ∨
          ∃ event, event.call? = none ∧ s'.events = s.events.push event)) := by
  unfold effect at heffect
  split at heffect
  · next hsort =>
      obtain ⟨patch, -, rfl⟩ := exists_of_map_eq_ok heffect
      exact ⟨fun _ => rfl, .inr ⟨by rw [Task.call?, hsort], .inl rfl⟩⟩
  · next url hsort =>
      cases heffect
      exact ⟨fun _ => rfl, .inr ⟨by rw [Task.call?, hsort], .inr ⟨.redirect url, rfl, rfl⟩⟩⟩
  · next action hsort =>
      have hnone : task.call? = none := by rw [Task.call?, hsort]
      split_ifs at heffect
      · cases heffect
        split
        · exact ⟨callAt?_modifyFlow s _ _, .inr ⟨hnone, .inl rfl⟩⟩
        · exact ⟨fun _ => rfl, .inr ⟨hnone, .inl rfl⟩⟩
      · cases heffect
        exact ⟨fun _ => rfl, .inr ⟨hnone, .inr ⟨.marker task.name action, rfl, rfl⟩⟩⟩
  · next call hsort =>
      have hexpects : call.awaitsResult = false := by
        rw [Task.requiresInput, hopen, hsort] at hinput
        exact hinput
      rw [hexpects] at heffect
      cases heffect
      rw [RemoteCall.awaitsResult, Option.isSome_eq_false_iff, Option.isNone_iff_eq_none]
        at hexpects
      exact ⟨fun _ => rfl, .inl ⟨call, hsort, hexpects, rfl⟩⟩
  · next hsort =>
      cases heffect
      exact ⟨fun _ => rfl, .inr ⟨by rw [Task.call?, hsort], .inl rfl⟩⟩
  · next hsort =>
      cases heffect
      exact ⟨fun _ => rfl, .inr ⟨by rw [Task.call?, hsort], .inl rfl⟩⟩

theorem eq_nil_of_queued {new : List Event} (hnew : s'.events.toList = s.events.toList ++ new)
    (hevents : s'.events = s.events) : new = [] := by
  rw [hevents] at hnew
  exact List.self_eq_append_right.mp hnew

theorem eq_singleton_of_queued {new : List Event} {event : Event}
    (hnew : s'.events.toList = s.events.toList ++ new)
    (hevents : s'.events = s.events.push event) : new = [event] := by
  rw [hevents, Array.toList_push] at hnew
  exact (List.append_cancel_left hnew).symm

/-- A child that is settled runs, unless it is complete. -/
theorem AtChild.handles_settled {scope : ScopeId} {owner : TaskId} {flow : Flow} {child : Child}
    {inner : Task} {ran : Session} {new : List Event}
    (hat : s.AtChild scope owner flow child inner) (hinput : inner.requiresInput = false)
    (hrun : s.runChild owner child inner = (.ok (), ran))
    (hnew : (ran.foldChild owner child).events.toList = s.events.toList ++ new) :
    Handles s (ran.foldChild owner child) s.attended? [] new := by
  rw [(foldChild_others ran owner child).2.2.2.2] at hnew
  unfold runChild at hrun
  split_ifs at hrun with hcomplete
  · cases hrun
    rw [eq_nil_of_queued hnew rfl]
    exact .nothing (callAt?_foldChild s owner child) (by simp)
  · rw [Bool.not_eq_true] at hcomplete
    split at hrun
    · next effect heffect =>
        cases hrun
        obtain ⟨hcalls, ⟨call, hsort, hexpects, hevents⟩ | ⟨hnone, hevents⟩⟩ :=
          effect_calls hinput hcomplete heffect
        · have hbefore : s.callAt? child.task = some (call, false) := by
            rw [callAt?_of_taskAt? hat.inner, Task.call?_eq_some_iff]
            exact ⟨hsort, hcomplete⟩
          rw [eq_singleton_of_queued hnew hevents, hat.attended?]
          refine .runs hbefore hexpects fun other => ?_
          rw [callAt?_foldChild, callAt?_complete, hcalls]
          split_ifs with hself
          · rw [← hself, hbefore]
            rfl
          · rfl
        · have hplain : effect.callAt? child.task = none := by
            rw [hcalls, callAt?_of_taskAt? hat.inner, hnone]
          refine .nothing (fun other => ?_) ?_
          · rw [callAt?_foldChild, callAt?_complete_of_eq_none hplain, hcalls]
          · rcases hevents with hevents | ⟨event, hevent, hevents⟩
            · rw [eq_nil_of_queued hnew hevents]
              simp
            · rw [eq_singleton_of_queued hnew hevents]
              simpa using hevent
    · cases hrun

/-- A turn opens calls, or runs one that expects no result. -/
theorem Turned.handles {result : Except Error Turn} {new : List Event}
    (hturned : s.Turned result s') (hnew : s'.events.toList = s.events.toList ++ new) :
    Handles s s' s.attended? [] new := by
  have hnothing : s'.events = s.events → (∀ id, s'.callAt? id = s.callAt? id) →
      Handles s s' s.attended? [] new := by
    intro hevents hcalls
    rw [eq_nil_of_queued hnew hevents]
    exact .nothing hcalls (by simp)
  cases hturned with
  | idle | stuck | waiting | unbound | entered => exact hnothing rfl fun _ => rfl
  | left _ _ _ _ _ hleave =>
      unfold leave at hleave
      dsimp only at hleave
      split_ifs at hleave <;> cases hleave <;> exact hnothing rfl fun _ => rfl
  | @interrupted _ owner => exact hnothing rfl (callAt?_modifyFlow s owner _)
  | settled hat hinput _ hrun => exact hat.handles_settled hinput hrun hnew
  | @dropped _ owner _ child =>
      exact hnothing rfl (callAt?_modifyFlow (s.closeScope child.scope) owner _)
  | @skipped _ owner flow | @unopened _ owner flow =>
      exact hnothing rfl (callAt?_modifyFlow s owner _)
  | @opened _ owner flow decl activity hat =>
      rw [eq_nil_of_queued hnew (by simp)]
      refine .opens (fun id => ?_) (by simp)
      obtain ⟨task, hwork⟩ := hat.working
      rw [callAt?, taskAt?_openChild s (taskAt?_lt hwork.here)]
      split_ifs with hfresh
      · have hnone : s.taskAt? id = none := hfresh ▸ taskAt?_nextTask s
        cases hcall : (s.declaredTask owner decl activity).call? with
        | none => exact .inl (by rw [Option.bind_some, hcall, callAt?, hnone]; rfl)
        | some found =>
            obtain ⟨call, complete⟩ := found
            obtain ⟨-, rfl⟩ := Task.call?_eq_some_iff.mp hcall
            exact .inr ⟨hnone, call, hcall⟩
      · left
        rw [callAt?]
        cases s.taskAt? id <;> simp
      · exact .inl rfl
  | @passOpened _ owner => exact hnothing rfl (callAt?_modifyFlow (s.openScope _ _) owner _)
  | @passEnded _ owner => exact hnothing rfl (callAt?_modifyFlow _ owner _)
  | @published _ owner flow _ mark value hat =>
      obtain ⟨-, -, -, -, hevents, -⟩ := concluded_others s owner mark
      refine hnothing hevents fun id => ?_
      obtain ⟨task, hwork⟩ := hat.working
      have hnone : (s.concluded owner mark).callAt? owner = none := by
        rw [callAt?_concluded, callAt?_of_taskAt? hwork.here]
        exact Task.call?_of_isFlow (by rw [Task.isFlow, hwork.runs]; rfl)
      exact (callAt?_complete_of_eq_none hnone id).trans (callAt?_concluded s owner mark id)
  | @unpublished _ owner =>
      obtain ⟨-, -, -, -, hevents, -⟩ := concluded_others s owner true
      exact hnothing hevents (callAt?_concluded s owner true)

/-- No remote call is opened, run or answered, and none is emitted. -/
structure LeavesCalls (s s' : Session) : Prop where
  calls : ∀ id, s'.callAt? id = s.callAt? id
  said : ∃ new, s'.events.toList = s.events.toList ++ new ∧ ∀ event ∈ new, event.call? = none

theorem LeavesCalls.refl (s : Session) : LeavesCalls s s :=
  ⟨fun _ => rfl, [], (List.append_nil _).symm, by simp⟩

theorem LeavesCalls.trans {r : Session} (hfirst : LeavesCalls s r) (hsecond : LeavesCalls r s') :
    LeavesCalls s s' := by
  obtain ⟨first, hqueued, hnone⟩ := hfirst.said
  obtain ⟨second, hqueued', hnone'⟩ := hsecond.said
  refine ⟨fun id => (hsecond.calls id).trans (hfirst.calls id), first ++ second, ?_, ?_⟩
  · rw [hqueued', hqueued, List.append_assoc]
  · exact fun event hmem => (List.mem_append.mp hmem).elim (hnone event) (hnone' event)

theorem LeavesCalls.of_events (hcalls : ∀ id, s'.callAt? id = s.callAt? id)
    (hevents : s'.events = s.events) : LeavesCalls s s' :=
  ⟨hcalls, [], by rw [hevents, List.append_nil], by simp⟩

theorem LeavesCalls.of_push {event : Event} (hcalls : ∀ id, s'.callAt? id = s.callAt? id)
    (hevents : s'.events = s.events.push event) (hnone : event.call? = none) : LeavesCalls s s' :=
  ⟨hcalls, [event], by rw [hevents, Array.toList_push], by simpa using hnone⟩

theorem LeavesCalls.handles {about : Option TaskId} {new : List Event} (hleaves : LeavesCalls s s')
    (hnew : s'.events.toList = s.events.toList ++ new) : Handles s s' about [] new := by
  obtain ⟨said, hqueued, hnone⟩ := hleaves.said
  rw [hqueued] at hnew
  exact .nothing hleaves.calls (List.append_cancel_left hnew ▸ hnone)

theorem IsScreen.callAt? (hscreen : s.IsScreen id) : s.callAt? id = none := by
  obtain ⟨task, screen, htask, hsort⟩ := hscreen
  rw [callAt?_of_taskAt? htask, Task.call?, hsort]

/-- Acting on a screen does nothing to remote calls. -/
theorem Act.leavesCalls (hact : Act id s s') (hscreen : s.IsScreen id) : LeavesCalls s s' := by
  have hnone := hscreen.callAt?
  cases hact with
  | screenSet new htask hsort =>
      refine .of_events (fun other => ?_) rfl
      rw [Session.callAt?, taskAt?_setScreen]
      split_ifs with hself
      · subst hself
        rw [hnone, htask]
        rfl
      · rfl
  | resultMerged | patched => exact .of_events (fun _ => rfl) rfl
  | completed => exact .of_events (callAt?_complete_of_eq_none hnone) rfl
  | recorded => exact .of_push (fun _ => rfl) rfl rfl
  | @returned task entry target =>
      obtain ⟨-, -, -, -, -, -, hevents, -⟩ := restore_others s target entry
      have hpushed : ((s.restore target entry).emit (.backAsked task.name true)).events =
          s.events.push (.backAsked task.name true) := by
        rw [emit, hevents]
      refine .of_push (fun other => ?_) hpushed rfl
      change (s.restore target entry).callAt? other = s.callAt? other
      rw [Session.callAt?, taskAt?_restore, Session.callAt?]
      split_ifs
      · cases s.taskAt? other <;> simp
      · rfl
  | refused => exact .of_push (fun _ => rfl) rfl rfl

theorem Acts.leavesCalls (hacts : Acts id s s') (hscreen : s.IsScreen id) : LeavesCalls s s' := by
  induction hacts with
  | refl => exact .refl s
  | tail hbefore hact ih => exact ih.trans (hact.leavesCalls (Acts.isScreen hbefore hscreen))

theorem fillIn_leavesCalls (s : Session) (id : TaskId) (field : String) (value : Value) :
    LeavesCalls s (s.fillIn id field value).2 := by
  rcases fillIn_cases s id field value with hsame | ⟨task, old, new, htask, hsort, -⟩
  · rw [hsame]
    exact .refl s
  · exact (fillIn_acts s id field value).leavesCalls ⟨task, old, htask, hsort⟩

theorem click_leavesCalls (s : Session) (id : TaskId) (component : String) :
    LeavesCalls s (s.click id component).2 := by
  cases hopen : s.openScreen id with
  | error error =>
      have hsame : (s.click id component).2 = s := by
        rw [click, hopen]
      rw [hsame]
      exact .refl s
  | ok found =>
      obtain ⟨htask, hsort, -⟩ := openScreen_eq_ok hopen
      exact (click_acts s id component).leavesCalls ⟨_, _, htask, hsort⟩

theorem remoteCall_eq_ok {call : RemoteCall} (hcall : s.remoteCall id = .ok call) :
    ∃ task, s.taskAt? id = some task ∧ task.activity = .remoteCall call := by
  unfold remoteCall at hcall
  split at hcall
  · next task htask =>
      split at hcall
      · next hsort =>
          cases hcall
          exact ⟨task, task_eq_ok_iff.mp htask, hsort⟩
      · cases hcall
  · cases hcall

theorem openTaskAt_eq_ok {task : Task} (hopen : s.openTaskAt id = .ok task) :
    s.taskAt? id = some task ∧ task.complete = false := by
  unfold openTaskAt at hopen
  split at hopen
  · next found hfound =>
      split_ifs at hopen with hcomplete
      cases hopen
      exact ⟨task_eq_ok_iff.mp hfound, by simpa using hcomplete⟩
  · cases hopen

/-- An answer that is accepted completes a remote call that was not complete. -/
theorem answer_of_ok {value : Value} (hdone : (s.answer id value).1 = .ok ()) :
    ∃ call patch, s.callAt? id = some (call, false) ∧ (s.answer id value).2 =
      (s.modifyScope (s.scopeOf id) (·.mergeResult patch)).complete id := by
  unfold answer at hdone ⊢
  dsimp only at hdone ⊢
  split at hdone
  · cases hdone
  · next patch hpatch =>
      obtain ⟨call, hcall, hpatch⟩ := exists_of_bind_eq_ok hpatch
      obtain ⟨written, hwritten, hpatch⟩ := exists_of_bind_eq_ok hpatch
      obtain ⟨found, hopen, hreturn⟩ := exists_of_bind_eq_ok hpatch
      obtain ⟨task, htask, hsort⟩ := remoteCall_eq_ok hcall
      obtain ⟨hfound, hcomplete⟩ := openTaskAt_eq_ok hopen
      rw [htask] at hfound
      cases hfound
      refine ⟨call, patch, ?_, rfl⟩
      rw [callAt?_of_taskAt? htask, Task.call?_eq_some_iff]
      exact ⟨hsort, hcomplete⟩

theorem answer_of_refused {value : Value} (hdone : (s.answer id value).1 ≠ .ok ()) :
    (s.answer id value).2 = s := by
  unfold answer at hdone ⊢
  dsimp only at hdone ⊢
  split at hdone
  · rfl
  · exact absurd rfl hdone

theorem Deed.handles {about : Option TaskId} {accepted : List TaskId} {new : List Event}
    (hdeed : Deed s about accepted s') (hnew : s'.events.toList = s.events.toList ++ new) :
    Handles s s' about accepted new := by
  cases hdeed with
  | turned hturn => exact (Session.turned hturn).handles hnew
  | filledIn id field value => exact (fillIn_leavesCalls s id field value).handles hnew
  | clicked id component => exact (click_leavesCalls s id component).handles hnew
  | answered id value hdone =>
      obtain ⟨call, patch, hbefore, hafter⟩ := answer_of_ok hdone
      rw [hafter] at hnew ⊢
      rw [eq_nil_of_queued hnew rfl]
      refine .answers hbefore fun other => ?_
      rw [callAt?_complete]
      split_ifs with hself
      · rw [← hself]
        change (s.callAt? id).map _ = _
        rw [hbefore]
        rfl
      · rfl
  | refused id value hdone =>
      rw [answer_of_refused hdone] at hnew ⊢
      exact (LeavesCalls.refl s).handles hnew
  | breakpointSet name =>
      have hleaves : LeavesCalls s (s.setBreakpoint name) := .of_events (fun _ => rfl) rfl
      exact hleaves.handles hnew

/-! ## What a log tells -/

theorem callsOf_append (id : TaskId) (log more : List (Option TaskId × Event)) :
    callsOf id (log ++ more) = callsOf id log ++ callsOf id more :=
  List.filterMap_append

theorem callsOf_eq_nil {log : List (Option TaskId × Event)}
    (hnone : ∀ about event, (about, event) ∈ log → event.call? ≠ none → about ≠ some id) :
    callsOf id log = [] := by
  refine List.filterMap_eq_nil_iff.mpr fun entry hmem => ?_
  split_ifs with habout
  · by_contra hcall
    exact hnone entry.1 entry.2 hmem hcall habout
  · rfl

/-- A log tells of the remote calls of a session which of them were emitted. -/
structure Records (log : List (Option TaskId × Event)) (answered : List TaskId) (s : Session) :
    Prop where
  calls : ∀ id call complete, s.callAt? id = some (call, complete) →
    callsOf id log =
      if call.destination = none ∧ complete = true ∧ id ∉ answered then
        [(call.endpoint, call.payload)] else []
  answers : ∀ id ∈ answered, ∃ call, s.callAt? id = some (call, true)
  emitted : ∀ about event, (about, event) ∈ log → event.call? ≠ none →
    ∃ id call, about = some id ∧ s.callAt? id = some (call, true) ∧ call.destination = none

section

variable {log : List (Option TaskId × Event)} {answered accepted : List TaskId}
  {about : Option TaskId} {new : List Event}

theorem Records.callsOf_of_open {call : RemoteCall} (hrecords : Records log answered s)
    (hbefore : s.callAt? id = some (call, false)) : callsOf id log = [] := by
  rw [hrecords.calls id call false hbefore]
  exact if_neg fun hdone => Bool.false_ne_true hdone.2.1

theorem Records.notMem_of_open {call : RemoteCall} (hrecords : Records log answered s)
    (hbefore : s.callAt? id = some (call, false)) : id ∉ answered := by
  intro hmem
  obtain ⟨found, hfound⟩ := hrecords.answers id hmem
  rw [hbefore] at hfound
  cases hfound

/-- Nothing was emitted for a task that is not there yet. -/
theorem Records.callsOf_of_fresh (hrecords : Records log answered s)
    (hfresh : s.taskAt? id = none) : callsOf id log = [] := by
  refine callsOf_eq_nil fun about event hmem hcall habout => ?_
  obtain ⟨found, call, rfl, hfound, -⟩ := hrecords.emitted about event hmem hcall
  cases habout
  rw [callAt?, hfresh] at hfound
  cases hfound

/-- Events that ask for no call leave the calls of a log as they are. -/
theorem callsOf_append_of_none (hnew : ∀ event ∈ new, event.call? = none) :
    callsOf id (log ++ new.map (Prod.mk about)) = callsOf id log := by
  have hnone : callsOf id (new.map (Prod.mk about)) = [] := by
    refine callsOf_eq_nil fun other event hmem hcall => ?_
    obtain ⟨found, hfound, heq⟩ := List.mem_map.mp hmem
    cases heq
    exact absurd (hnew event hfound) hcall
  rw [callsOf_append, hnone, List.append_nil]

/-- The log goes on telling of the remote calls when some are opened. -/
theorem Records.opens (hrecords : Records log answered s)
    (hcalls : ∀ id, s'.callAt? id = s.callAt? id ∨
      s.taskAt? id = none ∧ ∃ call, s'.callAt? id = some (call, false))
    (hnew : ∀ event ∈ new, event.call? = none) :
    Records (log ++ new.map (Prod.mk about)) answered s' := by
  have hkept : ∀ {id found}, s.callAt? id = some found → s'.callAt? id = some found := by
    intro id found hfound
    rcases hcalls id with hsame | ⟨hfresh, -⟩
    · rw [hsame, hfound]
    · rw [callAt?, hfresh] at hfound
      cases hfound
  constructor
  · intro id call complete hcall
    rw [callsOf_append_of_none hnew]
    rcases hcalls id with hsame | ⟨hfresh, opened, hopened⟩
    · exact hrecords.calls id call complete (hsame ▸ hcall)
    · rw [hopened] at hcall
      cases hcall
      rw [hrecords.callsOf_of_fresh hfresh, if_neg fun hdone => Bool.false_ne_true hdone.2.1]
  · intro id hmem
    obtain ⟨call, hcall⟩ := hrecords.answers id hmem
    exact ⟨call, hkept hcall⟩
  · intro other event hmem hcall
    rcases List.mem_append.mp hmem with hold | hlate
    · obtain ⟨id, found, habout, hfound, hexpects⟩ := hrecords.emitted other event hold hcall
      exact ⟨id, found, habout, hkept hfound, hexpects⟩
    · obtain ⟨found, hfound, heq⟩ := List.mem_map.mp hlate
      cases heq
      exact absurd (hnew event hfound) hcall

/-- The log goes on telling of the remote calls when one is completed: it runs and is emitted, or it
is answered. -/
theorem Records.completes {call : RemoteCall} (hrecords : Records log answered s)
    (hbefore : s.callAt? id = some (call, false))
    (hcalls : ∀ other, s'.callAt? other =
      if id = other then some (call, true) else s.callAt? other)
    (hhow : accepted = [] ∧ new = [.remoteCall call.endpoint call.payload] ∧
        call.destination = none ∨ accepted = [id] ∧ new = []) :
    Records (log ++ new.map (Prod.mk (some id))) (answered ++ accepted) s' := by
  have hself : s'.callAt? id = some (call, true) := (hcalls id).trans (if_pos rfl)
  have hkept : ∀ {other found}, s.callAt? other = some (found, true) →
      s'.callAt? other = some (found, true) := by
    intro other found hfound
    by_cases hid : id = other
    · rw [← hid, hbefore] at hfound
      cases hfound
    · rw [hcalls, if_neg hid, hfound]
  constructor
  · intro other found complete hfound
    rw [hcalls] at hfound
    split_ifs at hfound with hid
    · subst hid
      cases hfound
      rw [callsOf_append, hrecords.callsOf_of_open hbefore, List.nil_append]
      rcases hhow with ⟨rfl, rfl, hexpects⟩ | ⟨rfl, rfl⟩
      · rw [List.append_nil, if_pos ⟨hexpects, rfl, hrecords.notMem_of_open hbefore⟩]
        simp [callsOf, Event.call?]
      · simp [callsOf]
    · have hnone : callsOf other (new.map (Prod.mk (some id))) = [] := by
        refine callsOf_eq_nil fun about event hmem _ habout => hid ?_
        obtain ⟨said, -, heq⟩ := List.mem_map.mp hmem
        rw [← (Prod.mk.inj heq).1] at habout
        exact Option.some.inj habout
      have hmem : other ∈ answered ++ accepted ↔ other ∈ answered := by
        rcases hhow with ⟨rfl, -⟩ | ⟨rfl, -⟩
        · rw [List.append_nil]
        · simp [Ne.symm hid]
      simp only [callsOf_append, hnone, List.append_nil, hmem]
      exact hrecords.calls other found complete hfound
  · intro other hmem
    rcases List.mem_append.mp hmem with hold | hlate
    · obtain ⟨found, hfound⟩ := hrecords.answers other hold
      exact ⟨found, hkept hfound⟩
    · rcases hhow with ⟨rfl, -⟩ | ⟨rfl, -⟩
      · cases hlate
      · exact ⟨call, List.mem_singleton.mp hlate ▸ hself⟩
  · intro about event hmem hcall
    rcases List.mem_append.mp hmem with hold | hlate
    · obtain ⟨other, found, habout, hfound, hexpects⟩ := hrecords.emitted about event hold hcall
      exact ⟨other, found, habout, hkept hfound, hexpects⟩
    · rcases hhow with ⟨-, rfl, hexpects⟩ | ⟨-, rfl⟩
      · cases List.mem_singleton.mp hlate
        exact ⟨id, call, rfl, hself, hexpects⟩
      · cases hlate

theorem Records.handles (hrecords : Records log answered s)
    (hhandles : Handles s s' about accepted new) :
    Records (log ++ new.map (Prod.mk about)) (answered ++ accepted) s' := by
  cases hhandles with
  | opens hcalls hnew =>
      rw [List.append_nil]
      exact hrecords.opens hcalls hnew
  | runs hbefore hexpects hcalls =>
      exact hrecords.completes hbefore hcalls (.inl ⟨rfl, rfl, hexpects⟩)
  | answers hbefore hcalls => exact hrecords.completes hbefore hcalls (.inr ⟨rfl, rfl⟩)

/-- No remote call is there when a session starts. -/
theorem records_initial (document : Document) (settings : SessionSettings) (ownsEvents : Bool)
    (flowSettings : FlowSettings) :
    Records [] [] (initial document settings ownsEvents flowSettings) := by
  have hnone : ∀ id, (initial document settings ownsEvents flowSettings).callAt? id = none := by
    rintro ⟨_ | index⟩ <;> rfl
  constructor
  · intro id call complete hcall
    rw [hnone] at hcall
    cases hcall
  · simp
  · simp

theorem Logs.records {start : Session} (hlogs : start.Logs log answered s)
    (hstart : Records [] [] start) : Records log answered s := by
  induction hlogs with
  | started => exact hstart
  | deed _ hdeed hnew ih => exact ih.handles (hdeed.handles hnew)
  | requeued _ _ ih => exact ⟨ih.calls, ih.answers, ih.emitted⟩

/-! ## Every run has a log -/

theorem Logs.turns {start : Session} {count : Nat} (hlogs : start.Logs log answered s)
    (hturns : Turns count s s') : ∃ log, start.Logs log answered s' := by
  induction hturns generalizing log with
  | refl => exact ⟨log, hlogs⟩
  | turn hturn _ ih =>
      obtain ⟨new, hsaid⟩ := (turned hturn).announces
      exact ih (List.append_nil answered ▸ hlogs.deed (.turned hturn) hsaid.queued)

theorem Logs.pulled {start : Session} {turns : Nat} {answer : Pull}
    (hlogs : start.Logs log answered s) (hpull : s.pullWithin turns = (answer, s'))
    (hanswer : answer ≠ .unfinished) : ∃ log, start.Logs log answered s' := by
  obtain ⟨count, r, result, hturns, hlast, -⟩ := exists_last_turn hpull hanswer
  obtain ⟨longer, hlonger⟩ := hlogs.turns hturns
  obtain ⟨new, hsaid⟩ := (turned hlast).announces
  exact ⟨_, List.append_nil answered ▸ hlonger.deed (.turned hlast) hsaid.queued⟩

theorem Logs.pull {start : Session} (hlogs : start.Logs log answered s)
    (hanswer : s.pull.1 ≠ .unfinished) : ∃ log, start.Logs log answered s.pull.2 :=
  hlogs.pulled (Prod.eta s.pull).symm hanswer

/-- Whatever the program around a session does can be logged. -/
theorem Drives.logs {start : Session} (hdrives : start.Drives s) :
    ∃ log answered, start.Logs log answered s := by
  induction hdrives with
  | refl => exact ⟨[], [], .started⟩
  | @tail r s' _ hdrive ih =>
      obtain ⟨log, answered, hlogs⟩ := ih
      have hdeed : ∀ {about accepted}, Deed r about accepted s' →
          Relation.ReflTransGen Move r s' → ∃ log answered, start.Logs log answered s' := by
        intro about accepted hdeed hmoves
        obtain ⟨new, hnew, -⟩ := Moves.announced hmoves
        exact ⟨_, _, hlogs.deed hdeed hnew⟩
      cases hdrive with
      | requeued events => exact ⟨log, answered, hlogs.requeued events⟩
      | operated hstep =>
          have hmoves := hstep.moves
          cases hstep with
          | pulled hpull hanswer =>
              obtain ⟨longer, hlonger⟩ := hlogs.pulled hpull hanswer
              exact ⟨longer, answered, hlonger⟩
          | filledIn id field value => exact hdeed (.filledIn id field value) hmoves
          | clicked id component => exact hdeed (.clicked id component) hmoves
          | answered id value =>
              by_cases hdone : (r.answer id value).1 = .ok ()
              · exact hdeed (.answered id value hdone) hmoves
              · exact hdeed (.refused id value hdone) hmoves
          | breakpointSet name => exact hdeed (.breakpointSet name) hmoves

theorem Grows.remoteCall_before {call : RemoteCall} {task opened : Task} (hgrows : Grows s s')
    (hopened : s.taskAt? id = some opened) (htask : s'.taskAt? id = some task)
    (hsort : task.activity = .remoteCall call) : opened.activity = .remoteCall call := by
  obtain ⟨found, hfound, hskeleton, -⟩ := hgrows.tasks hopened
  rw [htask] at hfound
  cases hfound
  have hsame := Task.activity_of_skeleton hskeleton
  rw [hsort] at hsame
  cases hbefore : opened.activity with
  | remoteCall other =>
      rw [hbefore] at hsame
      exact hsame.symm
  | _ =>
      rw [hbefore] at hsame
      cases hsame

end

end

/-- Of every remote call without a destination that is complete one call is emitted, with the
endpoint and the payload that it was opened with, unless the program around the session answered it;
nothing is emitted of one that is not complete or was answered, nor of one with a destination.  All
calls that are emitted are those of such tasks. -/
theorem calls_emitted {document : Document} {settings : SessionSettings} {ownsEvents : Bool}
    {start : Session} (hstart : Session.start document settings ownsEvents = .ok start) :
    (∀ s, start.Drives s → ∃ log answered, start.Logs log answered s) ∧
      ∀ s log answered, start.Logs log answered s →
        (∀ id task call, s.taskAt? id = some task → task.activity = .remoteCall call →
          callsOf id log =
              (if call.destination = none ∧ task.complete = true ∧ id ∉ answered then
                [(call.endpoint, call.payload)] else []) ∧
            ∀ (r : Session) (opened : Task), r.Evolves s → r.taskAt? id = some opened →
              opened.activity = .remoteCall call) ∧
          ∀ about event, (about, event) ∈ log → event.call? ≠ none →
            ∃ id task call, about = some id ∧ s.taskAt? id = some task ∧
              task.activity = .remoteCall call ∧ call.destination = none := by
  obtain ⟨declared, -, rfl⟩ := start_eq hstart
  refine ⟨fun s hdrives => hdrives.logs, fun s log answered hlogs => ?_⟩
  have hrecords := hlogs.records (records_initial document settings ownsEvents declared.settings)
  constructor
  · intro id task call htask hsort
    have hcall : s.callAt? id = some (call, task.complete) := by
      rw [callAt?_of_taskAt? htask, Task.call?_eq_some_iff]
      exact ⟨hsort, rfl⟩
    exact ⟨hrecords.calls id call task.complete hcall, fun r opened hevolves hopened =>
      hevolves.grows.remoteCall_before hopened htask hsort⟩
  · intro about event hmem hemitted
    obtain ⟨id, call, habout, hcall, hexpects⟩ := hrecords.emitted about event hmem hemitted
    obtain ⟨task, htask, hfound⟩ := Option.bind_eq_some_iff.mp hcall
    obtain ⟨hsort, -⟩ := Task.call?_eq_some_iff.mp hfound
    exact ⟨id, task, call, habout, htask, hsort, hexpects⟩

/-- A document that makes two remote calls without a result, and then shows a screen. -/
def noticeDocument : Document where
  repository :=
    { components := []
      validators := []
      flows := [
        ("main", { tasks := [
                     { name := "notify", preconditions := [],
                       action := .remoteCall { url := "/notify", method := none,
                                               payload := .object [], payloadPaths := [],
                                               destination := none } },
                     { name := "report", preconditions := [],
                       action := .remoteCall { url := "/report", method := none,
                                               payload := .object [], payloadPaths := [],
                                               destination := none } },
                     { name := "done", preconditions := [], action := .screen [] }],
                   settings := {} })] }
  startingFlow := "main"
  context := .object []
  hash := none

/-- The session of `noticeDocument` that starts with a breakpoint on its second call. -/
def noticeStart : Session :=
  initial noticeDocument { breakpoints := ["report"] } true {}

/-- The session in which that call was answered, and the screen handed out. -/
def noticed : Session :=
  (noticeStart.pull.2.answer ⟨2⟩ .null).2.pull.2

def noticeTask (name endpoint : String) (scope : ScopeId) : Task where
  name := name
  scope := scope
  owner := some ⟨0⟩
  complete := true
  activity := .remoteCall { endpoint, method := none, payload := .object [], destination := none }

theorem noticeStart_eq :
    Session.start noticeDocument { breakpoints := ["report"] } true = .ok noticeStart :=
  start_initial (by decide +kernel) rfl

theorem noticed_logs : ∃ log, noticeStart.Logs log [⟨2⟩] noticed := by
  have hstarted : noticeStart.Logs [] [] noticeStart := .started
  obtain ⟨log, hpulled⟩ := hstarted.pull (by decide +kernel)
  have hanswered := hpulled.deed (.answered ⟨2⟩ .null (by decide +kernel)) (List.append_nil _).symm
  exact hanswered.pull (by decide +kernel)

/-- The call that ran was emitted, and the one that was answered was not. -/
theorem noticed_emitted :
    ∃ log, noticeStart.Logs log [⟨2⟩] noticed ∧
      callsOf ⟨1⟩ log = [("/notify", .object [])] ∧ callsOf ⟨2⟩ log = [] := by
  obtain ⟨log, hlogs⟩ := noticed_logs
  have hnotify : noticed.taskAt? ⟨1⟩ = some (noticeTask "notify" "/notify" ⟨1⟩) := by
    decide +kernel
  have hreport : noticed.taskAt? ⟨2⟩ = some (noticeTask "report" "/report" ⟨2⟩) := by
    decide +kernel
  obtain ⟨hcalls, -⟩ := (calls_emitted noticeStart_eq).2 noticed log [⟨2⟩] hlogs
  exact ⟨log, hlogs, (hcalls ⟨1⟩ _ _ hnotify rfl).1, (hcalls ⟨2⟩ _ _ hreport rfl).1⟩

/-- Not every complete call without a destination was emitted. -/
theorem calls_not_emitted :
    ¬∀ (document : Document) (settings : SessionSettings) (ownsEvents : Bool)
        (start s : Session) (log : List (Option TaskId × Event)) (answered : List TaskId)
        (id : TaskId) (task : Task) (call : RemoteCall),
      Session.start document settings ownsEvents = .ok start → start.Logs log answered s →
        s.taskAt? id = some task → task.activity = .remoteCall call → call.destination = none →
          callsOf id log =
            if task.complete = true then [(call.endpoint, call.payload)] else [] := by
  intro hclaim
  obtain ⟨log, hlogs⟩ := noticed_logs
  have hreport : noticed.taskAt? ⟨2⟩ = some (noticeTask "report" "/report" ⟨2⟩) := by
    decide +kernel
  have hemitted := hclaim _ _ _ _ _ _ _ _ _ _ noticeStart_eq hlogs hreport rfl rfl
  have hrecords := hlogs.records (records_initial _ _ _ _)
  rw [hrecords.calls ⟨2⟩ _ true (callAt?_of_taskAt? hreport)] at hemitted
  cases hemitted

end Session

end Workflow
