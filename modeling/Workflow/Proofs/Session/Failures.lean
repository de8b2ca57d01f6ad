import Workflow.Proofs.Session.Backward
import Workflow.Proofs.Session.DepthFirst
import Workflow.Proofs.Session.Indices

/-!
# What the operations of a session fail with

In a secure session a pull fails only because of a path, of a pattern, of items that are no list or
of a loop without end, and an operation on a task that was opened only because of a path, of a
pattern, or because the task or its screen does not take that input.  No failure is about the
session itself: none is about a name that is not declared, a task or a flow that is not there, or a
stack that has run out.

Every turn and every operation is followed through its definition once.  Where one step of an
operation leads to another session, that session is secure as well because the step is an act.
-/

namespace Workflow.Session

open Error

variable {s s' : Session} {id : TaskId}

/-! ## Turns -/

theorem failsAs_effect (s : Session) (task : Task) : FailsAs ofPath (s.effect task) := by
  unfold effect
  split
  · exact (Instruction.failsAs_extend true _ _ _).map _
  · exact .ok _
  · split <;> exact .ok _
  · exact .ok _
  · exact .ok _
  · exact .ok _

theorem failsAs_settleChild (s : Session) (id : TaskId) (child : Child) (task : Task) :
    FailsAs ofPath (s.settleChild id child task).1 := by
  have hrun : FailsAs ofPath (s.runChild id child task).1 := by
    unfold runChild
    split_ifs
    · exact .ok _
    · split
      · exact .ok _
      · next failure h => exact .error (s.failsAs_effect task failure h)
  unfold settleChild
  split
  · exact .ok _
  · next failure ran h => exact .error (hrun failure (by rw [h]))

theorem AtChild.failsAs_turn {scope : ScopeId} {flow : Flow} {child : Child} {inner : Task}
    (hat : s.AtChild scope id flow child inner) : FailsAs stopsStep s.turn.1 := by
  rw [hat.turn_eq]
  split_ifs
  · exact .ok _
  · exact .ok _
  · exact .ok _
  · exact (s.failsAs_settleChild id child inner).mono stopsStep_of_ofPath

theorem failsAs_publish {flow : Flow} (hflow : s.flowAt? id = some flow) (mark : Bool) :
    FailsAs ofPath ((s.concluded id mark).publish id).1 := by
  rw [publish_concluded hflow]
  split
  · next failure h => exact .error (flow.failsAs_publication _ failure h)
  · exact .ok _

/-- The conditions of a flow are declared validators. -/
theorem Resolved.judges_conditions (hresolved : s.Resolved) {flow : Flow}
    (hflow : s.flowAt? id = some flow) : s.repository.Judges flow.settings.conditions := by
  obtain ⟨task, htask, hruns⟩ := flowAt?_eq_some_iff.mp hflow
  have hactivity := hresolved.tasks htask
  rw [Task.flow?_eq_some_iff.mp hruns] at hactivity
  exact hactivity

theorem Resolved.failsAs_isPassDue (hresolved : s.Resolved) {flow : Flow}
    (hflow : s.flowAt? id = some flow) : FailsAs ofRule (s.isPassDue id flow) := by
  unfold isPassDue
  split
  · split_ifs
    · exact .ok _
    · exact Judge.failsAs_allPass rfl (hresolved.judges_conditions hflow) _
  · exact .ok _
  · exact .ok _

theorem Resolved.failsAs_nextPass (hresolved : s.Resolved) {flow : Flow}
    (hflow : s.flowAt? id = some flow) : FailsAs stopsPull (s.nextPass id flow).1 := by
  have hpublish (mark : Bool) : FailsAs stopsPull ((s.concluded id mark).publish id).1 :=
    (failsAs_publish hflow mark).mono fun h => stopsPull_of_stopsStep (stopsStep_of_ofPath h)
  unfold nextPass
  split_ifs
  · exact hpublish false
  · split
    · next failure h =>
        have hrule := hresolved.failsAs_isPassDue hflow failure h
        exact .error (stopsPull_of_stopsStep (stopsStep_of_ofRule hrule))
    · exact hpublish true
    · dsimp only
      split_ifs
      · exact .error rfl
      · exact .ok _

theorem failsAs_foldPass (s : Session) (id : TaskId) (flow : Flow) :
    FailsAs ofPath (s.foldPass id flow).1 := by
  unfold foldPass
  split
  · exact .ok _
  · dsimp only
    split
    · next failure h => exact .error (flow.failsAs_snapshotOf _ _ failure h)
    · exact .ok _

/-- A declaration is complete, so whether it is to be opened can be told, and it can be opened. -/
theorem AtStep.failsAs_openDeclared {scope : ScopeId} {flow : Flow} {decl : TaskDecl}
    (hat : s.AtStep scope id flow (.openTask decl)) (hresolved : s.Resolved) :
    FailsAs stopsStep (s.openDeclared id flow decl).1 := by
  have hcomplete := hat.completeTask hresolved.repository
  have hshows : FailsAs ofRule (s.shows id flow decl) :=
    Judge.failsAs_allPass rfl hcomplete.preconditions _
  have hactivity : FailsAs stopsStep (s.repository.activity decl (s.ambient id flow)) :=
    hresolved.repository.failsAs_activity hcomplete
  rw [openDeclared_eq]
  split
  · next failure h => exact .error (stopsStep_of_ofRule (hshows failure h))
  · exact .ok _
  · split
    · next failure h => exact .error (hactivity failure h)
    · exact .ok _

/-- Only a step that is to begin a pass meets the limit of passes. -/
theorem AtStep.failsAs_turn {scope : ScopeId} {flow : Flow} {step : FlowStep}
    (hat : s.AtStep scope id flow step) (hresolved : s.Resolved) (hstep : step ≠ .nextPass) :
    FailsAs stopsStep s.turn.1 := by
  obtain ⟨task, hwork⟩ := hat.working
  rw [hat.turn_eq]
  cases step with
  | openTask decl => exact hat.failsAs_openDeclared hresolved
  | nextPass => exact absurd rfl hstep
  | foldPass => exact (s.failsAs_foldPass id flow).mono stopsStep_of_ofPath
  | publish => exact (failsAs_publish hwork.flowAt? false).mono stopsStep_of_ofPath

/-- A turn works on the innermost flow, unless it has nothing to do but to end or to leave it. -/
theorem Secure.turn_cases (hsecure : s.Secure) :
    (∃ turn, s.turn.1 = .ok turn) ∨
      (∃ scope id flow child inner, s.AtChild scope id flow child inner) ∨
        ∃ scope id flow step, s.AtStep scope id flow step := by
  have hwired := hsecure.sound.wired
  by_cases hidle : s.redirectedTo.isSome ∨ s.active.head? = none
  · rw [turn_of_not_running hidle]
    exact .inl ⟨_, rfl⟩
  · rw [not_or, Option.not_isSome_iff_eq_none] at hidle
    obtain ⟨hrunning, hactive⟩ := hidle
    obtain ⟨scope, hhead⟩ := Option.ne_none_iff_exists'.mp hactive
    obtain ⟨id, outer, -, hnested, hbound⟩ := hsecure.sound.head hhead
    obtain ⟨task, htask, hisFlow⟩ := hnested.isFlow hwired
    obtain ⟨flow, hruns⟩ := Option.isSome_iff_exists.mp hisFlow
    by_cases hcomplete : task.complete = true
    · rw [turn_of_complete hrunning hhead hbound htask hcomplete, leave]
      dsimp only
      split_ifs <;> exact .inl ⟨_, rfl⟩
    · have hwork : s.Working scope id task flow :=
        ⟨hrunning, hhead, hbound, htask, by simpa using hcomplete, hruns⟩
      right
      cases hcurrent : flow.current with
      | some child =>
          obtain ⟨inner, hinner, -⟩ := (hwired.linked hwork.flowAt?).child hcurrent
          exact .inl ⟨scope, id, flow, child, inner, ⟨task, hwork⟩, hcurrent, hinner⟩
      | none =>
          obtain ⟨-, ⟨declared, hdeclared, -⟩, -⟩ := hsecure.placed.flows hwork.flowAt?
          exact .inr ⟨scope, id, flow, _, ⟨task, hwork⟩, hcurrent, declared, hdeclared, rfl⟩

theorem Secure.failsAs_turn (hsecure : s.Secure) : FailsAs stopsPull s.turn.1 := by
  rcases hsecure.turn_cases with ⟨turn, hturn⟩ | ⟨scope, id, flow, child, inner, hat⟩ |
    ⟨scope, id, flow, step, hat⟩
  · rw [hturn]
    exact .ok _
  · exact hat.failsAs_turn.mono stopsPull_of_stopsStep
  · by_cases hstep : step = .nextPass
    · subst hstep
      obtain ⟨task, hwork⟩ := hat.working
      rw [hat.turn_eq]
      exact hsecure.resolved.failsAs_nextPass hwork.flowAt?
    · exact (hat.failsAs_turn hsecure.resolved hstep).mono stopsPull_of_stopsStep

/-- A pull fails as its last turn does. -/
theorem Secure.stopsPull_of_pullWithin (hsecure : s.Secure) {turns : Nat} {error : Error}
    (hpull : s.pullWithin turns = (.failed error, s')) : error.stopsPull = true := by
  obtain ⟨count, r, result, hturns, hlast, hanswer⟩ := exists_last_turn hpull (by simp)
  have hresult : result = .error error := by
    unfold Turn.answer? at hanswer
    split at hanswer <;> cases hanswer
    rfl
  have hfails := (Moves.secure hturns.moves hsecure).failsAs_turn
  rw [hlast] at hfails
  exact hfails error hresult

/-- A pull hands out a task that was opened. -/
theorem Secure.issued_of_pullWithin (hsecure : s.Secure) {turns : Nat}
    (hpull : s.pullWithin turns = (.task id, s')) : id.index < s'.tasks.size := by
  obtain ⟨scope, owner, task, flow, childScope, -, -, -, inner, hinner, -⟩ :=
    childOf_of_pullWithin hsecure.sound hpull
  exact taskAt?_lt (task_eq_ok_iff.mp hinner)

/-! ## Operations on tasks -/

theorem failsAs_screenTask {task : Task} (htask : s.taskAt? id = some task) :
    FailsAs stopsInput (s.screenTask id) := by
  unfold screenTask
  rw [task_eq_ok_iff.mpr htask]
  dsimp only
  split
  · exact .ok _
  · exact .error rfl

theorem failsAs_remoteCall {task : Task} (htask : s.taskAt? id = some task) :
    FailsAs stopsInput (s.remoteCall id) := by
  unfold remoteCall
  rw [task_eq_ok_iff.mpr htask]
  dsimp only
  split
  · exact .ok _
  · exact .error rfl

theorem failsAs_openTaskAt {task : Task} (htask : s.taskAt? id = some task) :
    FailsAs stopsInput (s.openTaskAt id) := by
  unfold openTaskAt
  rw [task_eq_ok_iff.mpr htask]
  dsimp only
  split_ifs
  · exact .error rfl
  · exact .ok _

theorem failsAs_openScreen {task : Task} (htask : s.taskAt? id = some task) :
    FailsAs stopsInput (s.openScreen id) :=
  (failsAs_openTaskAt htask).bind fun _ _ => failsAs_screenTask htask

/-- The components of a screen name declared validators. -/
theorem Resolved.screen (hresolved : s.Resolved) {task : Task} {screen : Screen}
    (htask : s.taskAt? id = some task) (hscreen : task.activity = .screen screen) :
    screen.Resolved s.repository := by
  have hactivity := hresolved.tasks htask
  rw [hscreen] at hactivity
  exact hactivity

theorem Resolved.failsAs_components (hresolved : s.Resolved) {task : Task}
    (htask : s.taskAt? id = some task) : FailsAs stopsInput (s.components id) := by
  refine (failsAs_screenTask htask).bind fun found hfound => ?_
  obtain ⟨found, screen⟩ := found
  obtain ⟨hfound, hscreen⟩ := screenTask_eq_ok_iff.mp hfound
  exact (Screen.failsAs_views rfl (hresolved.screen hfound hscreen)).mono stopsInput_of_ofRule

theorem Resolved.failsAs_fillIn (hresolved : s.Resolved) {task : Task}
    (htask : s.taskAt? id = some task) (field : String) (value : Value) :
    FailsAs stopsInput (s.fillIn id field value).1 := by
  have hchanged : FailsAs stopsInput (s.openScreen id >>= fun pair =>
      pair.2.set pair.1.name field value (s.taskJudge pair.1)) := by
    refine (failsAs_openScreen htask).bind fun found hfound => ?_
    obtain ⟨found, screen⟩ := found
    obtain ⟨hfound, hscreen, -⟩ := openScreen_eq_ok hfound
    exact Screen.failsAs_set rfl (hresolved.screen hfound hscreen) value
  unfold fillIn
  dsimp only
  split
  · exact .ok _
  · next failure h => exact .error (hchanged failure h)

theorem failsAs_answer {task : Task} (htask : s.taskAt? id = some task) (value : Value) :
    FailsAs stopsInput (s.answer id value).1 := by
  have hpatch : FailsAs stopsInput (do
      let call ← s.remoteCall id
      let patch ← call.answerPatch value
      let _ ← s.openTaskAt id
      return patch) := by
    refine (failsAs_remoteCall htask).bind fun call _ => ?_
    refine ((call.failsAs_answerPatch value).mono stopsInput_of_ofPath).bind fun patch _ => ?_
    exact (failsAs_openTaskAt htask).bind fun _ _ => .ok _
  unfold answer
  dsimp only
  split
  · next failure h => exact .error (hpatch failure h)
  · exact .ok _

/-! ## Clicks -/

theorem Resolved.failsAs_judgeScreen (hresolved : s.Resolved) (hscreen : s.IsScreen id) :
    FailsAs ofRule (s.judgeScreen id).1 := by
  obtain ⟨task, screen, hfound, htask, hactivity⟩ := screenTask_of_isScreen hscreen
  simp only [judgeScreen, hfound]
  exact Screen.failsAs_validate rfl (hresolved.screen htask hactivity)

/-- Recording a screen does not fail, because the owner of a task is a flow. -/
theorem Wired.exists_recordHistory (hwired : s.Wired) {task : Task}
    (htask : s.taskAt? id = some task) : ∃ recorded, s.recordHistory id = .ok recorded := by
  have hvisit : ∃ found, s.visitOf id = .ok found := by
    unfold visitOf
    rw [task_eq_ok_iff.mpr htask]
    dsimp only [bind, Except.bind]
    cases howner : task.owner with
    | none => exact ⟨none, rfl⟩
    | some owner =>
        obtain ⟨-, outer, houter, hisFlow, -⟩ := hwired.owned htask howner
        obtain ⟨flow, hflow⟩ := hasFlow_of_isFlow houter hisFlow
        dsimp only
        rw [flow_eq_ok_iff.mpr hflow]
        dsimp only
        split
        · exact ⟨none, rfl⟩
        · split_ifs
          · exact ⟨_, rfl⟩
          · exact ⟨none, rfl⟩
  obtain ⟨found, hfound⟩ := hvisit
  rw [recordHistory, hfound]
  exact ⟨_, rfl⟩

/-- What a screen that is to be left is recorded as. -/
theorem Wired.exists_recorded (hwired : s.Wired) {task : Task} (htask : s.taskAt? id = some task) :
    ∃ recorded, (if s.settings.recordHistory then s.recordHistory id else .ok s) = .ok recorded ∧
      Recorded s id recorded := by
  split_ifs
  · obtain ⟨recorded, hrecorded⟩ := hwired.exists_recordHistory htask
    exact ⟨recorded, hrecorded, recorded_of_recordHistory hrecorded⟩
  · exact ⟨s, rfl, .nothing⟩

theorem leaveScreen_of_complete {task : Task} (htask : s.taskAt? id = some task)
    (hcomplete : task.complete = true) : s.leaveScreen id = (.ok (), s) := by
  rw [leaveScreen, task_eq_ok_iff.mpr htask]
  exact if_pos hcomplete

/-- An open screen is recorded, if that is asked for, and completed if it has a result. -/
theorem leaveScreen_eq {task : Task} {screen : Screen} {recorded : Session}
    (htask : s.taskAt? id = some task) (hactivity : task.activity = .screen screen)
    (hopen : task.complete = false)
    (hrecord : (if s.settings.recordHistory then s.recordHistory id else .ok s) = .ok recorded) :
    s.leaveScreen id =
      match screen.result (recorded.taskJudge task) with
      | .error error => (.error error, recorded)
      | .ok result =>
        (.ok (), (recorded.modifyScope task.scope (·.mergeResult result)).complete id) := by
  have hrecorded : Recorded s id recorded := by
    split_ifs at hrecord
    · exact recorded_of_recordHistory hrecord
    · cases hrecord
      exact .nothing
  have hscreen : recorded.screenTask id = .ok (task, screen) :=
    screenTask_eq_ok_iff.mpr ⟨(hrecorded.taskAt? id).trans htask, hactivity⟩
  rw [leaveScreen, task_eq_ok_iff.mpr htask]
  dsimp only
  rw [if_neg (by simp [hopen]), hrecord]
  cases hresult : screen.result (recorded.taskJudge task) with
  | error error => simp only [hscreen, bind, Except.bind, hresult]
  | ok result => simp only [hscreen, bind, Except.bind, hresult]

theorem Secure.failsAs_leaveScreen (hsecure : s.Secure) (hscreen : s.IsScreen id) :
    FailsAs ofRule (s.leaveScreen id).1 := by
  obtain ⟨task, screen, htask, hactivity⟩ := hscreen
  by_cases hcomplete : task.complete = true
  · rw [leaveScreen_of_complete htask hcomplete]
    exact .ok _
  · obtain ⟨recorded, hrecord, hrecorded⟩ := hsecure.sound.wired.exists_recorded htask
    have hresolved := (Moves.secure hrecorded.acts.moves hsecure).resolved
    have hresult : FailsAs ofRule (screen.result (recorded.taskJudge task)) :=
      Screen.failsAs_result rfl (hresolved.screen ((hrecorded.taskAt? id).trans htask) hactivity)
    rw [leaveScreen_eq htask hactivity (Bool.eq_false_iff.mpr hcomplete) hrecord]
    split
    · next failure h => exact .error (hresult failure h)
    · exact .ok _

theorem Secure.failsAs_submit (hsecure : s.Secure) (hscreen : s.IsScreen id) :
    FailsAs ofRule (s.submit id).1 := by
  have hjudged := hsecure.resolved.failsAs_judgeScreen hscreen
  have hacts := judgeScreen_acts hscreen
  unfold submit
  split
  · next judged h =>
      rw [h] at hacts
      exact (Moves.secure hacts.moves hsecure).failsAs_leaveScreen (hacts.isScreen hscreen)
  · exact .ok _
  · next failure judged h => exact .error (hjudged failure (by rw [h]))

theorem Secure.failsAs_performAction (hsecure : s.Secure) (hscreen : s.IsScreen id)
    (action : String) : FailsAs ofRule (s.performAction id action).1 := by
  unfold performAction
  split_ifs
  · exact hsecure.failsAs_submit hscreen
  · exact hsecure.failsAs_leaveScreen hscreen
  · obtain ⟨task, -, htask, -⟩ := hscreen
    refine FailsAs.map ?_ _
    rcases goBack_cases htask with ⟨entry, target, -, -, hback⟩ | ⟨-, hback⟩
    · rw [hback]
      exact .ok _
    · rw [hback]
      exact .ok _
  · exact .ok _

theorem Secure.failsAs_perform (hsecure : s.Secure) (hscreen : s.IsScreen id)
    (effect : ClickEffect) : FailsAs ofRule (s.perform id effect).1 := by
  cases effect with
  | update patch => exact .ok _
  | action name => exact hsecure.failsAs_performAction hscreen name

theorem Secure.failsAs_performAll (hsecure : s.Secure) (hscreen : s.IsScreen id)
    (effects : List ClickEffect) : FailsAs ofRule (s.performAll id effects).1 := by
  induction effects generalizing s with
  | nil => exact .ok _
  | cons effect rest ih =>
      have hfirst := hsecure.failsAs_perform hscreen effect
      have hacts := perform_acts hscreen effect
      rw [performAll]
      split
      · next performed h =>
          rw [h] at hacts
          exact ih (Moves.secure hacts.moves hsecure) (hacts.isScreen hscreen)
      · next failure performed h => exact .error (hfirst failure (by rw [h]))

theorem Secure.failsAs_click (hsecure : s.Secure) {task : Task}
    (htask : s.taskAt? id = some task) (component : String) :
    FailsAs stopsInput (s.click id component).1 := by
  unfold click
  split
  · next failure h => exact .error (failsAs_openScreen htask failure h)
  · next found screen h =>
      obtain ⟨hfound, hactivity, -⟩ := openScreen_eq_ok h
      have hclick : FailsAs stopsInput (screen.click found.name component (s.taskJudge found)).1 :=
        Screen.failsAs_click rfl (hsecure.resolved.screen hfound hactivity)
      have hact : Act id s (s.setScreen id
          (screen.click found.name component (s.taskJudge found)).2) :=
        .screenSet _ hfound hactivity (screen.skeleton_click _ _ _)
      have hscreen := hact.isScreen ⟨found, screen, hfound, hactivity⟩
      dsimp only
      split
      · exact (((Move.act hact).secure hsecure).failsAs_performAll hscreen _).mono
          stopsInput_of_ofRule
      · next failure h => exact .error (hclick failure h)

/-! ## Throughout a session -/

/-- Unwinding to a flow being run leaves that flow innermost, so that the stack has a head for as
long as there are flows to leave. -/
theorem Sound.head?_unwindTo (hsound : s.Sound) {scope : ScopeId}
    (hmem : scope ∈ s.active.toList) :
    (unwindTo scope s.active.toList s).active.head? = some scope := by
  rcases hsound.nested with hempty | ⟨innermost, hnested⟩
  · rw [hempty] at hmem
    cases hmem
  · obtain ⟨above, outer, hlist⟩ := List.append_of_mem hmem
    have hunwound := unwound hsound.wired hsound.active rfl hnested ⟨above, hlist.symm⟩
    rw [Cursor.head?_eq hunwound.valid, hunwound.active]
    rfl

theorem Sound.mem_of_returnTarget? (hsound : s.Sound) {owner : TaskId} {requester : Option TaskId}
    {target : ScopeId}
    (htarget : s.returnTarget? owner requester s.active.toList = some target) :
    target ∈ s.active.toList := by
  rcases hsound.nested with hempty | ⟨innermost, hnested⟩
  · rw [hempty] at htarget
    cases htarget
  · obtain ⟨-, outer, hsuffix, -⟩ := hnested.of_returnTarget? hsound.wired htarget
    exact hsuffix.mem List.mem_cons_self

/-- The task is there, and an operation on it fails only because of the input, of a path or of a
pattern. -/
structure Operates (s : Session) (id : TaskId) : Prop where
  task : ∃ task, s.task id = .ok task
  components : FailsAs stopsInput (s.components id)
  errors : FailsAs stopsInput (s.errors id)
  remoteCall : FailsAs stopsInput (s.remoteCall id)
  fillIn : ∀ field value, FailsAs stopsInput (s.fillIn id field value).1
  click : ∀ component, FailsAs stopsInput (s.click id component).1
  answer : ∀ value, FailsAs stopsInput (s.answer id value).1

theorem Secure.operates (hsecure : s.Secure) {task : Task} (htask : s.taskAt? id = some task) :
    s.Operates id where
  task := ⟨task, task_eq_ok_iff.mpr htask⟩
  components := hsecure.resolved.failsAs_components htask
  errors := (failsAs_screenTask htask).map _
  remoteCall := failsAs_remoteCall htask
  fillIn := hsecure.resolved.failsAs_fillIn htask
  click := hsecure.failsAs_click htask
  answer := failsAs_answer htask

/-- Nothing that is looked up in the session is missing, and its operations fail only for reasons
that lie outside of it. -/
structure Operable (s : Session) : Prop where
  indexed : s.Indexed
  pulls : ∀ turns error s', s.pullWithin turns = (.failed error, s') → error.stopsPull = true
  issues : ∀ turns id s', s.pullWithin turns = (.task id, s') → id.index < s'.tasks.size
  issued : ∀ id : TaskId, id.index < s.tasks.size → s.Operates id
  /-- Going back finds its target on the stack, and never leaves more flows than there are. -/
  returns : ∀ owner requester target,
    s.returnTarget? owner requester s.active.toList = some target → target ∈ s.active.toList
  unwinds : ∀ scope ∈ s.active.toList,
    (unwindTo scope s.active.toList s).active.head? = some scope

theorem Secure.operable (hsecure : s.Secure) : s.Operable where
  indexed := hsecure.indexed
  pulls := fun _ _ _ => hsecure.stopsPull_of_pullWithin
  issues := fun _ _ _ => hsecure.issued_of_pullWithin
  issued := fun _ hissued => hsecure.operates (Array.getElem?_eq_getElem hissued)
  returns := fun _ _ _ => hsecure.sound.mem_of_returnTarget?
  unwinds := fun _ => hsecure.sound.head?_unwindTo

/-- A document without a fault can be run.  Whatever is done with its session, every turn and every
act on the way finds all that it looks up, and no operation fails because of something that is not
there: neither a pull, nor an operation on a task that was opened, which stays opened. -/
theorem operable_throughout {document : Document} (settings : SessionSettings) (ownsEvents : Bool)
    (hfault : document.fault? = none) :
    (∃ start, Session.start document settings ownsEvents = .ok start ∧
      ∀ s, start.Drives s →
        (∀ r, Relation.ReflTransGen Move s r → r.Operable) ∧
          ∀ s', s.Drives s' → s.tasks.size ≤ s'.tasks.size) ∧
      ∀ error : Error, error.stopsPull = true ∨ error.stopsInput = true →
        error.isInternal = false := by
  obtain ⟨start, hstart⟩ := exists_start hfault settings ownsEvents
  refine ⟨⟨start, hstart, fun s hdrives => ⟨fun r hmoves => ?_, fun s' hafter => ?_⟩⟩,
    fun error hkind => not_isInternal hkind⟩
  · exact (Moves.secure hmoves (hdrives.secure (start_secure hstart))).operable
  · exact hafter.grows.tasks_size

/-- With the inner flow of `spiralDocument` on show and the screen of the outer flow left, both
screens can be operated on; a task that was never opened is not there. -/
theorem innerStep_operable :
    spiralDocument.fault? = none ∧ innerStep.Operable ∧ innerStep.Operates ⟨1⟩ ∧
      innerStep.Operates ⟨3⟩ ∧ innerStep.task ⟨4⟩ = .error (.foreignTask 4) := by
  have hfault : spiralDocument.fault? = none := by decide +kernel
  have hrun : (initial spiralDocument {} true {}).Run innerStep :=
    run_carryOut [.pull, .click ⟨1⟩ "next", .pull] (by decide +kernel)
  obtain ⟨⟨start, hstart, hthroughout⟩, -⟩ := operable_throughout {} true hfault
  rw [start_initial hfault rfl] at hstart
  cases hstart
  have hoperable := (hthroughout innerStep hrun.drives).1 innerStep .refl
  exact ⟨hfault, hoperable, hoperable.issued ⟨1⟩ (by decide +kernel),
    hoperable.issued ⟨3⟩ (by decide +kernel), by decide +kernel⟩

end Workflow.Session
