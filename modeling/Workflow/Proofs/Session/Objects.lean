import Workflow.Proofs.Document.Destinations
import Workflow.Proofs.Session.Abandoned
import Workflow.Proofs.Session.Resolution
import Workflow.Proofs.Session.Trees

/-!
# Trees that stay objects

The context of a sound document is an object.  If nothing in the document writes to the root of a
tree, then all patches are objects, whatever values the program around the session gives, and every
state and every result stays an object, `trees_are_objects`.
-/

namespace Workflow

/-- Both trees of a scope are objects. -/
def AreObjects (state result : Value) : Prop :=
  state.isObject = true ∧ result.isObject = true

theorem lasting_objects : Lasting AreObjects fun patch => patch.isObject = true where
  empty := ⟨rfl, rfl⟩
  opened := fun hobjects => ⟨hobjects.1, rfl⟩
  mergeState := fun hobjects hpatch => ⟨Value.isObject_merge _ hpatch, hobjects.2⟩
  mergeResult := fun hobjects hpatch => ⟨hobjects.1, Value.isObject_merge _ hpatch⟩
  left := fun hobjects => hobjects.2
  object := fun _ => rfl

/-- Where a task writes was settled when it was opened. -/
theorem Activity.Inward.of_skeleton {activity other : Activity} (hinward : activity.Inward)
    (hskeleton : other.skeleton = activity.skeleton) : other.Inward := by
  cases other with
  | screen built =>
      cases activity <;> simp only [Activity.skeleton, reduceCtorEq] at hskeleton
      next opened =>
        have hcomponents := congrArg Screen.components (Activity.screen.inj hskeleton)
        intro component hmem
        have hsame : component.skeleton ∈ opened.components.map Component.skeleton := by
          rw [← show built.components.map Component.skeleton =
            opened.components.map Component.skeleton from hcomponents]
          exact List.mem_map_of_mem hmem
        obtain ⟨declared, hdeclared, hkept⟩ := List.mem_map.mp hsame
        rw [← (Component.of_skeleton hkept).2.2.1]
        exact hinward declared hdeclared
  | flow running =>
      cases activity <;> simp only [Activity.skeleton, reduceCtorEq] at hskeleton
      have hsettings := (Flow.of_skeleton (Activity.flow.inj hskeleton)).2.2.1
      rw [Inward, hsettings]
      exact hinward
  | _ =>
      cases activity <;> simp only [Activity.skeleton, reduceCtorEq] at hskeleton
      cases hskeleton
      exact hinward

/-- What an inward declaration gives writes nothing to the root. -/
theorem Repository.Inward.activity {repository : Repository} (hinward : repository.Inward)
    {decl : TaskDecl} (hdecl : decl.action.Inward) {state : Value} {built : Activity}
    (hbuilt : repository.activity decl state = .ok built) : built.Inward := by
  unfold Repository.activity at hbuilt
  cases haction : decl.action with
  | screen rows =>
      rw [haction] at hbuilt hdecl
      obtain ⟨screen, hscreen, rfl⟩ := exists_of_map_eq_ok hbuilt
      obtain ⟨components, hcomponents, rfl⟩ := exists_of_map_eq_ok hscreen
      exact Screen.inward_build hinward hdecl hcomponents
  | remoteCall call =>
      rw [haction] at hbuilt hdecl
      obtain ⟨opened, hopened, rfl⟩ := exists_of_map_eq_ok hbuilt
      obtain ⟨computed, -, rfl⟩ := exists_of_map_eq_ok hopened
      exact hdecl
  | flow repetition inline =>
      rw [haction] at hbuilt hdecl
      dsimp only at hbuilt
      split at hbuilt
      · next declared hdeclared =>
          obtain ⟨flow, hstart, rfl⟩ := exists_of_map_eq_ok hbuilt
          have hsettings := hinward.settings _ (Keyed.mem_of_get? hdeclared)
          rw [Session.Flow.start_eq hstart]
          cases inline with
          | none => exact hsettings
          | some inline => exact hsettings.overriddenBy (hdecl inline rfl)
      · cases hbuilt
  | update instructions =>
      rw [haction] at hbuilt hdecl
      cases hbuilt
      exact hdecl
  | redirect url | event action =>
      rw [haction] at hbuilt
      cases hbuilt
      exact trivial

namespace Session

/-- Neither the document nor a task of the session writes to the root of a tree. -/
structure Inward (s : Session) : Prop where
  repository : s.repository.Inward
  tasks : ∀ ⦃id task⦄, s.taskAt? id = some task → task.activity.Inward

section

variable {s s' : Session} {id : TaskId}

theorem Turned.inward {result : Except Error Turn} (hturned : s.Turned result s')
    (hinward : s.Inward) : s'.Inward where
  repository := hturned.grows.repository ▸ hinward.repository
  tasks := by
    refine hturned.activities Activity.Inward.of_skeleton ?_ hinward.tasks
    intro pair decl state activity hmem hdecl hactivity
    exact hinward.repository.activity (hinward.repository.tasks pair hmem decl hdecl) hactivity

theorem Acts.inward (hacts : Acts id s s') (hinward : s.Inward) : s'.Inward where
  repository := (Moves.grows hacts.moves).repository ▸ hinward.repository
  tasks := (Moves.grows hacts.moves).activities hacts.tasks_size Activity.Inward.of_skeleton
    hinward.tasks

/-! ## Turns and inputs -/

theorem Turned.objects {result : Except Error Turn} (hturned : s.Turned result s')
    (hinward : s.Inward) (htrees : s.Has AreObjects) : s'.Has AreObjects := by
  refine htrees.turned lasting_objects hturned ?_ ?_
  · intro id task instructions patch htask hactivity hpatch
    have htask' := hinward.tasks htask
    rw [hactivity] at htask'
    exact Instruction.isObject_chainedPatch htask' hpatch
  · intro id flow state value hflow hpublication
    obtain ⟨task, htask, hruns⟩ := flowAt?_eq_some_iff.mp hflow
    have htask' := hinward.tasks htask
    rw [Task.flow?_eq_some_iff.mp hruns] at htask'
    exact Flow.isObject_publication htask' hpublication

theorem fillIn_objects (htrees : s.Has AreObjects) (id : TaskId) (field : String)
    (value : Value) : (s.fillIn id field value).2.Has AreObjects := by
  rcases fillIn_cases s id field value with hsame | ⟨task, old, new, -, -, -, hset⟩
  · rw [hsame]
    exact htrees
  · rw [hset]
    exact htrees.of_same rfl rfl

theorem answer_objects (hinward : s.Inward) (htrees : s.Has AreObjects) (id : TaskId)
    (value : Value) : (s.answer id value).2.Has AreObjects := by
  rcases answer_cases s id value with hsame | ⟨task, call, patch, htask, hcall, hpatch, hanswer⟩
  · rw [hsame]
    exact htrees
  · have htask' := hinward.tasks htask
    rw [hcall] at htask'
    have hmerged := htrees.mergeResult lasting_objects task.scope
      (RemoteCall.isObject_answerPatch htask' hpatch)
    rw [hanswer]
    exact hmerged.of_same rfl rfl

theorem leaveScreen_objects (hinward : s.Inward) (htrees : s.Has AreObjects)
    (hvalid : s.history.Valid) (hscreen : s.IsScreen id) :
    (s.leaveScreen id).2.Has AreObjects := by
  obtain ⟨task, -, htask, -⟩ := hscreen
  obtain ⟨recorded, hrecorded, hleft⟩ := leaveScreen_cases htask
  have hbefore : recorded.Has AreObjects := by
    cases hrecorded with
    | nothing => exact htrees
    | visit hvisit => exact htrees.remember lasting_objects hvalid hvisit
  rcases hleft with hleft | ⟨screen, result, hactivity, hresult, hleft⟩
  · rw [hleft]
    exact hbefore
  · have htask' := hinward.tasks htask
    rw [hactivity] at htask'
    have hmerged := hbefore.mergeResult lasting_objects task.scope
      (Screen.isObject_result htask' hresult)
    rw [hleft]
    exact hmerged.of_same rfl rfl

theorem submit_objects (hinward : s.Inward) (htrees : s.Has AreObjects)
    (hvalid : s.history.Valid) (hscreen : s.IsScreen id) : (s.submit id).2.Has AreObjects := by
  have hstill := judgeScreen_still hscreen
  have hjudged : (s.judgeScreen id).2.Has AreObjects := by
    obtain ⟨task, screen, hfound, -⟩ := screenTask_of_isScreen hscreen
    simp only [judgeScreen, hfound]
    exact htrees.of_same rfl rfl
  unfold submit
  split
  · next judged hjudge =>
      rw [hjudge] at hstill hjudged
      exact leaveScreen_objects (hstill.acts.inward hinward) hjudged
        (hstill.history.symm ▸ hvalid) (hstill.isScreen hscreen)
  all_goals
    next judged hjudge =>
      rw [hjudge] at hjudged
      exact hjudged

theorem goBack_objects (htrees : s.Has AreObjects) (hvalid : s.history.Valid) {task : Task}
    (htask : s.taskAt? id = some task) : (s.goBack id).2.Has AreObjects := by
  rcases goBack_cases htask with ⟨entry, target, hentry, -, hback⟩ | ⟨-, hback⟩
  · rw [hback]
    exact (htrees.restore lasting_objects hvalid hentry target).of_same rfl rfl
  · rw [hback]
    exact htrees.of_same rfl rfl

theorem performAction_objects (hinward : s.Inward) (htrees : s.Has AreObjects)
    (hvalid : s.history.Valid) (hscreen : s.IsScreen id) (action : String) :
    (s.performAction id action).2.Has AreObjects := by
  unfold performAction
  split_ifs
  · exact submit_objects hinward htrees hvalid hscreen
  · exact leaveScreen_objects hinward htrees hvalid hscreen
  · obtain ⟨task, -, htask, -⟩ := hscreen
    exact goBack_objects htrees hvalid htask
  · exact htrees

/-- What a click writes before its action is an object. -/
theorem performAll_objects {effects : List ClickEffect} (hinward : s.Inward)
    (htrees : s.Has AreObjects) (hvalid : s.history.Valid) (hscreen : s.IsScreen id)
    (heffects : effects = [] ∨ (∃ action, effects = [.action action]) ∨
      ∃ patch action, effects = [.update patch, .action action])
    (hpatches : ∀ patch, .update patch ∈ effects → patch.isObject = true) :
    (s.performAll id effects).2.Has AreObjects := by
  rcases heffects with rfl | ⟨action, rfl⟩ | ⟨patch, action, rfl⟩
  · exact htrees
  · rw [performAll_action]
    exact performAction_objects hinward htrees hvalid hscreen action
  · obtain ⟨task, screen, htask, hactivity⟩ := hscreen
    have hstill := Still.patched patch htask (Task.takesInput_of_screen hactivity)
    have hpatched := htrees.mergeBoth lasting_objects task.scope (hpatches patch (by simp))
    rw [performAll, perform, scopeOf_eq_of_taskAt? htask]
    dsimp only
    rw [performAll_action]
    exact performAction_objects (hstill.acts.inward hinward) hpatched hvalid
      (hstill.isScreen ⟨task, screen, htask, hactivity⟩) action

theorem click_objects (hinward : s.Inward) (htrees : s.Has AreObjects)
    (hvalid : s.history.Valid) (id : TaskId) (component : String) :
    (s.click id component).2.Has AreObjects := by
  rcases click_cases s id component with hsame | ⟨task, screen, changed, htask, hactivity, hkept,
    hset⟩
  · rw [hsame]
    exact htrees
  · have hchanged : (s.setScreen id changed).Has AreObjects := htrees.of_same rfl rfl
    rcases hset with hset | ⟨place, pressed, clicked, effects, hfind, hclick, hset⟩
    · rw [hset]
      exact hchanged
    · rw [hset]
      have hstill := Still.screenSet changed htask hactivity hkept
      have hscreen := hinward.tasks htask
      rw [hactivity] at hscreen
      have hdestination := hscreen pressed
        (List.mem_of_getElem? (Screen.getElem?_of_find hfind))
      exact performAll_objects (hstill.acts.inward hinward) hchanged hvalid
        (hstill.isScreen ⟨task, screen, htask, hactivity⟩) (Component.click_effects hclick)
        fun patch => Component.isObject_of_click hdestination hclick

/-! ## Runs -/

theorem Turns.inward_objects {count : Nat} (hturns : Turns count s s') (hinward : s.Inward)
    (htrees : s.Has AreObjects) : s'.Inward ∧ s'.Has AreObjects := by
  induction hturns with
  | refl => exact ⟨hinward, htrees⟩
  | turn hturn _ ih =>
      have hturned := turned hturn
      exact ih (hturned.inward hinward) (hturned.objects hinward htrees)

theorem Drive.inward_objects (hdrive : s.Drive s') (hsound : s.Sound) (hinward : s.Inward)
    (htrees : s.Has AreObjects) : s'.Inward ∧ s'.Has AreObjects := by
  have hsame : ∀ {s' : Session}, s'.repository = s.repository → s'.tasks = s.tasks →
      s'.scopes = s.scopes → s'.history = s.history → s'.Inward ∧ s'.Has AreObjects := by
    intro s' hrepository htasks hscopes hhistory
    refine ⟨⟨hrepository ▸ hinward.repository, ?_⟩, htrees.of_same hscopes hhistory⟩
    intro id task htask
    rw [taskAt?, htasks] at htask
    exact hinward.tasks htask
  cases hdrive with
  | requeued events => exact hsame rfl rfl rfl rfl
  | operated hstep =>
      cases hstep with
      | pulled hpull hanswer =>
          obtain ⟨count, r, result, hturns, hlast, -⟩ := exists_last_turn hpull hanswer
          obtain ⟨hinward', htrees'⟩ := hturns.inward_objects hinward htrees
          have hturned := turned hlast
          exact ⟨hturned.inward hinward', hturned.objects hinward' htrees'⟩
      | filledIn id field value =>
          exact ⟨(fillIn_acts s id field value).inward hinward,
            fillIn_objects htrees id field value⟩
      | clicked id component =>
          exact ⟨(click_acts s id component).inward hinward,
            click_objects hinward htrees hsound.history id component⟩
      | answered id value =>
          exact ⟨(answer_acts s id value).inward hinward, answer_objects hinward htrees id value⟩
      | breakpointSet name => exact hsame rfl rfl rfl rfl

theorem Drives.inward_objects (hdrives : s.Drives s') (hdriven : s.Driven) (hinward : s.Inward)
    (htrees : s.Has AreObjects) : s'.Inward ∧ s'.Has AreObjects := by
  induction hdrives with
  | refl => exact ⟨hinward, htrees⟩
  | tail hbefore hdrive ih =>
      obtain ⟨hinward', htrees'⟩ := ih
      exact hdrive.inward_objects (hdriven.drives hbefore).accounted.1.sound hinward' htrees'

/-- A session of a sound document starts with objects. -/
theorem initial_inward_objects {document : Document} {settings : SessionSettings}
    {ownsEvents : Bool} {declared : FlowDecl} (hfault : document.fault? = none)
    (hrepository : document.repository.Inward)
    (hdeclared : Keyed.get? document.startingFlow document.repository.flows = some declared) :
    (initial document settings ownsEvents declared.settings).Inward ∧
      (initial document settings ownsEvents declared.settings).Has AreObjects := by
  have hcontext := (Document.fault?_eq_none_iff.mp hfault).1
  refine ⟨⟨hrepository, ?_⟩, ⟨?_, ?_⟩⟩
  · rintro ⟨index⟩ task htask
    cases index with
    | zero =>
        cases htask
        exact hrepository.settings _ (Keyed.mem_of_get? hdeclared)
    | succ index => cases htask
  · rintro ⟨index⟩ scope hscope
    cases index with
    | zero =>
        cases hscope
        exact ⟨hcontext, rfl⟩
    | succ index => cases hscope
  · intro visit hmem
    cases hmem

end

/-- If nothing in a document writes to the root of a tree, the states and the results of all scopes
are objects for good, and so are the trees of all records, whatever values the program around the
session gives. -/
theorem trees_are_objects {document : Document} {settings : SessionSettings} {ownsEvents : Bool}
    {start s : Session} (hinward : document.repository.Inward)
    (hstart : Session.start document settings ownsEvents = .ok start) (hdrives : start.Drives s) :
    (∀ id scope, s.scopeAt? id = some scope →
        scope.state.isObject = true ∧ scope.result.isObject = true) ∧
      ∀ visit ∈ s.history.toList,
        (visit.state.isObject = true ∧ visit.result.isObject = true) ∧
          ∀ trees, visit.pass = some trees →
            trees.1.isObject = true ∧ trees.2.isObject = true := by
  have hdriven : start.Driven := ⟨document, settings, ownsEvents, start, hstart, .refl⟩
  have hfault := fault?_of_start hstart
  obtain ⟨declared, hdeclared, rfl⟩ := start_eq hstart
  obtain ⟨hfirst, htrees⟩ := initial_inward_objects hfault hinward hdeclared
  obtain ⟨-, hobjects⟩ := hdrives.inward_objects hdriven hfirst htrees
  exact ⟨fun id scope hscope => hobjects.scopes hscope, hobjects.visits⟩

/-- A document with a loop over items that are no objects, a remote call, and a literal result that
is no object. -/
def scalarDocument : Document where
  repository :=
    { components := [actionButton "next", actionButton "back"]
      validators := []
      flows := [
        ("main", { tasks := [
                     { name := "each", preconditions := [], action := .flow .forItems none },
                     { name := "ask", preconditions := []
                       action := .remoteCall { url := "/ask", method := none,
                                               payload := .null, payloadPaths := [],
                                               destination := some "answer" } }],
                   settings := { literal := some (.string "done") } }),
        ("each", { tasks := [
                     twoWayScreen "show",
                     { name := "note", preconditions := []
                       action := .update [{ operand := .path "item", target := "seen" }] }],
                   settings := { itemsPath := some "marks", destination := some "passes" } })] }
  startingFlow := "main"
  context := .object [("marks", .list [.bool true, .null])]
  hash := none

/-- The session of `scalarDocument` in which both screens are left and the call is answered with
null. -/
def scalarAnswered : Session :=
  let start := initial scalarDocument {} true { literal := some (.string "done") }
  let shown := (start.pull.2.click ⟨2⟩ "next").2.pull.2
  ((shown.click ⟨4⟩ "next").2.pull.2.answer ⟨6⟩ .null).2

/-- It has records and keeps objects. -/
theorem scalarAnswered_objects :
    scalarAnswered.historyDepth = 2 ∧
      (∀ id scope, scalarAnswered.scopeAt? id = some scope →
        scope.state.isObject = true ∧ scope.result.isObject = true) ∧
      ∀ visit ∈ scalarAnswered.history.toList,
        (visit.state.isObject = true ∧ visit.result.isObject = true) ∧
          ∀ trees, visit.pass = some trees →
            trees.1.isObject = true ∧ trees.2.isObject = true := by
  have hinward : scalarDocument.repository.Inward := by decide +kernel
  have hstart : Session.start scalarDocument {} true =
      .ok (initial scalarDocument {} true { literal := some (.string "done") }) :=
    start_initial (by decide +kernel) rfl
  have hrun : (initial scalarDocument {} true { literal := some (.string "done") }).Run
      scalarAnswered :=
    run_carryOut [.pull, .click ⟨2⟩ "next", .pull, .click ⟨4⟩ "next", .pull, .answer ⟨6⟩ .null]
      (by decide +kernel)
  exact ⟨by decide +kernel, trees_are_objects hinward hstart hrun.drives⟩

end Session

end Workflow
