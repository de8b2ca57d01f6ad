import Workflow.Proofs.Session.Plain

/-!
# Acting on tasks without breakpoints

Breakpoints play no part in what the program around a session does with a task: going back, filling
in, clicking and answering do to the plain session what they do to the session, and answer the same.
A record of a screen that was left holds no mark.
-/

namespace Workflow.Session

variable (s : Session)

/-! ## Going back -/

theorem visitOf_plain (id : TaskId) :
    s.plain.visitOf id =
      (s.visitOf id).map (Option.map fun found => (found.1.plain, found.2)) := by
  simp only [visitOf, task_plain]
  cases s.task id with
  | error error => rfl
  | ok task =>
      simp only [Except.map, bind, Except.bind, Task.plain_others]
      cases task.owner with
      | none => rfl
      | some owner =>
          simp only [flow_plain]
          cases s.flow owner with
          | error error => rfl
          | ok flow =>
              have hplain : flow.plain.current =
                  flow.current.map fun child => { child with interrupted := false } := rfl
              simp only [Except.map, hplain, scopeOf_plain]
              cases flow.current with
              | none => rfl
              | some child =>
                  by_cases hchild : child.task = id
                  · simp only [Option.map_some, if_pos hchild]
                    rfl
                  · simp only [Option.map_some, if_neg hchild]
                    rfl

theorem recordHistory_plain (id : TaskId) :
    s.plain.recordHistory id = (s.recordHistory id).map plain := by
  simp only [recordHistory, visitOf_plain]
  cases s.visitOf id with
  | error error => rfl
  | ok found => cases found <;> rfl

theorem returnTarget?_plain (owner : TaskId) (requester : Option TaskId) (scopes : List ScopeId) :
    s.plain.returnTarget? owner requester scopes = s.returnTarget? owner requester scopes := by
  induction scopes generalizing requester with
  | nil => rfl
  | cons scope outer ih =>
      simp only [returnTarget?, ih, ownerOf_plain]
      rfl

theorem plain_closeAll (scopes : List ScopeId) :
    (s.closeAll scopes).plain = s.plain.closeAll scopes := by
  induction scopes generalizing s with
  | nil => rfl
  | cons scope scopes ih =>
      have hfirst := ih (s.closeScope scope)
      rw [plain_closeScope] at hfirst
      exact hfirst

theorem plain_closeInside (id : TaskId) :
    (s.closeInside id).plain = s.plain.closeInside id := by
  simp only [closeInside, flow_plain]
  cases s.flow id with
  | error error => rfl
  | ok flow =>
      have hchild : flow.plain.current.map Child.scope = flow.current.map Child.scope := by
        simp only [Flow.plain, Option.map_map]
        rfl
      simp only [Except.map, hchild]
      exact s.plain_closeAll _

theorem plain_abandon (scope : ScopeId) : (s.abandon scope).plain = s.plain.abandon scope := by
  have hflow : (({ s.plain with active := s.plain.active.pop } : Session).scope scope).flow =
      (({ s with active := s.active.pop } : Session).scope scope).flow := rfl
  simp only [abandon, plain_closeScope, hflow]
  congr 1
  cases (({ s with active := s.active.pop } : Session).scope scope).flow with
  | none => rfl
  | some flow => exact plain_closeInside { s with active := s.active.pop } flow

theorem plain_unwindTo (target : ScopeId) (scopes : List ScopeId) :
    (unwindTo target scopes s).plain = unwindTo target scopes s.plain := by
  induction scopes generalizing s with
  | nil => rfl
  | cons scope outer ih =>
      simp only [unwindTo]
      split
      · rfl
      · rw [ih, plain_abandon]

theorem plain_reopenPass (target : ScopeId) (trees : Option (Value × Value)) :
    s.plain.reopenPass target trees =
      ((s.reopenPass target trees).1, (s.reopenPass target trees).2.plain) := by
  cases trees <;> rfl

theorem plain_restore (target : ScopeId) (entry : Visit) :
    (s.restore target entry).plain = s.plain.restore target entry := by
  have hunwound : unwindTo target s.plain.active.toList s.plain =
      (unwindTo target s.active.toList s).plain :=
    (s.plain_unwindTo target s.active.toList).symm
  simp only [restore]
  rw [hunwound, ← plain_closeInside, ← plain_modifyScope, plain_reopenPass]
  generalize (((unwindTo target s.active.toList s).closeInside entry.flow).modifyScope target
    (·.reopen entry.state entry.result)).reopenPass target entry.pass = reopened
  obtain ⟨pass, rewound⟩ := reopened
  have hflow : (rewound.modifyFlow entry.flow (·.returnTo entry.mark pass)).plain =
      rewound.plain.modifyFlow entry.flow (·.returnTo entry.mark pass) := by
    apply plain_modifyFlow
    exact fun _ => rfl
  dsimp only
  rw [← hflow]
  rfl

theorem plain_goBack (id : TaskId) : s.plain.goBack id = Outcome.plain (s.goBack id) := by
  simp only [goBack, task_plain]
  cases s.task id with
  | error error => rfl
  | ok task =>
      simp only [Except.map, Task.plain_others]
      have hfound : (s.plain.history.head?.bind fun entry =>
          (s.plain.returnTarget? entry.flow task.owner s.plain.active.toList).map ((·, entry))) =
          s.history.head?.bind fun entry =>
            (s.returnTarget? entry.flow task.owner s.active.toList).map ((·, entry)) := by
        simp only [returnTarget?_plain]
        rfl
      rw [hfound]
      cases s.history.head?.bind fun entry =>
          (s.returnTarget? entry.flow task.owner s.active.toList).map ((·, entry)) with
      | none => rfl
      | some found =>
          refine congrArg (Prod.mk _) ?_
          rw [← plain_restore]
          rfl

/-! ## Input -/

theorem screenTask_plain (id : TaskId) :
    s.plain.screenTask id = (s.screenTask id).map fun found => (found.1.plain, found.2) := by
  simp only [screenTask, task_plain]
  cases s.task id with
  | error error => rfl
  | ok task =>
      obtain ⟨name, scope, owner, complete, activity⟩ := task
      cases activity <;> rfl

theorem remoteCall_plain (id : TaskId) : s.plain.remoteCall id = s.remoteCall id := by
  simp only [remoteCall, task_plain]
  cases s.task id with
  | error error => rfl
  | ok task =>
      obtain ⟨name, scope, owner, complete, activity⟩ := task
      cases activity <;> rfl

theorem openTaskAt_plain (id : TaskId) :
    s.plain.openTaskAt id = (s.openTaskAt id).map Task.plain := by
  simp only [openTaskAt, task_plain]
  cases s.task id with
  | error error => rfl
  | ok task =>
      simp only [Except.map, Task.plain_others]
      split <;> rfl

theorem openScreen_plain (id : TaskId) :
    s.plain.openScreen id = (s.openScreen id).map fun found => (found.1.plain, found.2) := by
  simp only [openScreen, openTaskAt_plain, screenTask_plain]
  cases s.openTaskAt id <;> rfl

theorem plain_fillIn (id : TaskId) (field : String) (value : Value) :
    s.plain.fillIn id field value = Outcome.plain (s.fillIn id field value) := by
  simp only [fillIn, openScreen_plain]
  cases s.openScreen id with
  | error error => rfl
  | ok found =>
      obtain ⟨task, screen⟩ := found
      simp only [Except.map, bind, Except.bind, Task.plain_others, taskJudge_plain]
      cases screen.set task.name field value (s.taskJudge task) with
      | error error => rfl
      | ok screen => exact congrArg (Prod.mk _) (s.plain_setScreen id screen).symm

theorem plain_judgeScreen (id : TaskId) :
    s.plain.judgeScreen id = Outcome.plain (s.judgeScreen id) := by
  simp only [judgeScreen, screenTask_plain]
  cases s.screenTask id with
  | error error => rfl
  | ok found =>
      obtain ⟨task, screen⟩ := found
      simp only [Except.map, taskJudge_plain]
      exact congrArg (Prod.mk _) (s.plain_setScreen id _).symm

theorem plain_leaveScreen (id : TaskId) :
    s.plain.leaveScreen id = Outcome.plain (s.leaveScreen id) := by
  have hrecorded : (if s.plain.settings.recordHistory then s.plain.recordHistory id
        else .ok s.plain) =
      (if s.settings.recordHistory then s.recordHistory id else .ok s).map plain := by
    rw [recordHistory_plain]
    change (if s.settings.recordHistory then _ else _) = _
    split <;> rfl
  simp only [leaveScreen, task_plain, hrecorded]
  cases s.task id with
  | error error => rfl
  | ok task =>
      simp only [Except.map, Task.plain_others]
      cases task.complete with
      | true => rfl
      | false =>
          simp only [Bool.false_eq_true, ↓reduceIte]
          cases (if s.settings.recordHistory then s.recordHistory id else .ok s) with
          | error error => rfl
          | ok recorded =>
              dsimp only
              rw [screenTask_plain]
              cases recorded.screenTask id with
              | error error => rfl
              | ok found =>
                  simp only [Except.map, bind, Except.bind, taskJudge_plain]
                  cases found.2.result (recorded.taskJudge found.1) with
                  | error error => rfl
                  | ok result =>
                      exact congrArg (Prod.mk _) (plain_complete
                        (recorded.modifyScope task.scope (·.mergeResult result)) id).symm

theorem plain_submit (id : TaskId) : s.plain.submit id = Outcome.plain (s.submit id) := by
  simp only [submit, plain_judgeScreen]
  rcases s.judgeScreen id with ⟨valid, judged⟩
  cases valid with
  | error error => rfl
  | ok valid =>
      cases valid with
      | false => rfl
      | true => exact judged.plain_leaveScreen id

theorem plain_performAction (id : TaskId) (action : String) :
    s.plain.performAction id action = Outcome.plain (s.performAction id action) := by
  simp only [performAction]
  split
  · exact s.plain_submit id
  · split
    · exact s.plain_leaveScreen id
    · split
      · rw [plain_goBack]
        rfl
      · rfl

theorem plain_perform (id : TaskId) (effect : ClickEffect) :
    s.plain.perform id effect = Outcome.plain (s.perform id effect) := by
  cases effect with
  | update patch =>
      simp only [perform, scopeOf_plain]
      rfl
  | action name => exact s.plain_performAction id name

theorem plain_performAll (id : TaskId) (effects : List ClickEffect) :
    s.plain.performAll id effects = Outcome.plain (s.performAll id effects) := by
  induction effects generalizing s with
  | nil => rfl
  | cons effect rest ih =>
      simp only [performAll, plain_perform]
      rcases s.perform id effect with ⟨result, performed⟩
      cases result with
      | error error => rfl
      | ok done => exact ih performed

theorem plain_click (id : TaskId) (component : String) :
    s.plain.click id component = Outcome.plain (s.click id component) := by
  simp only [click, openScreen_plain]
  cases s.openScreen id with
  | error error => rfl
  | ok found =>
      obtain ⟨task, screen⟩ := found
      simp only [Except.map, taskJudge_plain, Task.plain_others]
      rcases screen.click task.name component (s.taskJudge task) with ⟨effects, clicked⟩
      dsimp only
      rw [← plain_setScreen]
      cases effects with
      | error error => rfl
      | ok effects => exact plain_performAll (s.setScreen id clicked) id effects

theorem plain_answer (id : TaskId) (value : Value) :
    s.plain.answer id value = Outcome.plain (s.answer id value) := by
  have hpatch : (do
      let call ← s.plain.remoteCall id
      let patch ← call.answerPatch value
      let _ ← s.plain.openTaskAt id
      return patch) = (do
      let call ← s.remoteCall id
      let patch ← call.answerPatch value
      let _ ← s.openTaskAt id
      return patch : Except Error Value) := by
    rw [remoteCall_plain, openTaskAt_plain]
    cases s.openTaskAt id <;> rfl
  simp only [answer, hpatch, scopeOf_plain]
  split
  · rfl
  · next patch _ =>
      exact congrArg (Prod.mk _)
        (plain_complete (s.modifyScope (s.scopeOf id) (·.mergeResult patch)) id).symm

end Workflow.Session
