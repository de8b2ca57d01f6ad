import Mathlib.Control.Monad.Basic
import Workflow.Proofs.Session.Keeping

/-!
# Pulling again after a failure

A pull that failed is tried again by the next pull.  If the turn that failed left the session as it
was, the same turn fails again.  If it dropped a child, the same declaration is opened again, in
the same state, and fails again when it is run.  If it marked a loop as finished, the loop fails
again to publish.

A declared task that cannot be judged or built is the exception: the cursor has moved on before the
task is tried, nothing moves it back, and the flow goes on behind the task that failed.
-/

namespace Workflow

namespace Session

/-- The innermost flow is at a declared task that cannot be judged, or that cannot be built. -/
def FailsToOpen (s : Session) (id : TaskId) (flow : Flow) (error : Error) : Prop :=
  ∃ scope decl, s.AtStep scope id flow (.openTask decl) ∧
    (s.shows id flow decl = .error error ∨ s.shows id flow decl = .ok true ∧
      s.repository.activity decl (s.ambient id flow) = .error error)

section

variable {s s' : Session} {scope : ScopeId} {id : TaskId} {flow : Flow}

/-- A flow that passes over a task stands behind it, and is not at the same step again. -/
theorem FailsToOpen.flowAt?_passOver {error : Error} (hfails : s.FailsToOpen id flow error) :
    (s.passOver id flow).flowAt? id = some { flow with cursor := flow.cursor + 1 } := by
  obtain ⟨scope, decl, hat, -⟩ := hfails
  obtain ⟨task, hwork⟩ := hat.working
  rw [Session.flowAt?_passOver, if_pos rfl, hwork.flowAt?]
  rfl

/-! ## A child that fails -/

/-- Only an update can fail when it is run. -/
theorem effect_eq_error_iff {task : Task} {error : Error} :
    s.effect task = .error error ↔ ∃ instructions, task.activity = .update instructions ∧
      Instruction.chainedPatch instructions (s.stateOf task) = .error error := by
  unfold effect
  constructor
  · intro heffect
    split at heffect
    · next instructions hactivity =>
        refine ⟨instructions, hactivity, ?_⟩
        cases hpatch : Instruction.chainedPatch instructions (s.stateOf task) with
        | error found =>
            rw [hpatch] at heffect
            cases heffect
            rfl
        | ok patch =>
            rw [hpatch] at heffect
            cases heffect
    · cases heffect
    · split_ifs at heffect
    · cases heffect
    · cases heffect
    · cases heffect
  · rintro ⟨instructions, hactivity, hpatch⟩
    simp only [hactivity, hpatch]
    rfl

/-- Without breakpoints, a child that fails is dropped. -/
theorem AtChild.turn_of_effect_error {child : Child} {inner : Task} {error : Error}
    (hat : s.AtChild scope id flow child inner) (hbreak : s.settings.breakpoints = [])
    (hopen : inner.complete = false) (heffect : s.effect inner = .error error) :
    s.turn = (.error error, s.dropChild id child) := by
  obtain ⟨instructions, hactivity, -⟩ := effect_eq_error_iff.mp heffect
  rw [hat.turn_eq, if_neg (by simp [hbreak]), if_neg (by simp [Task.requiresInput, hactivity]),
    if_neg (by simp [Task.isFlow, Task.flow?, hactivity]), settleChild, runChild,
    if_neg (by simp [hopen])]
  simp only [heffect]
  rfl

theorem AtChild.running {child : Child} {inner : Task} (hat : s.AtChild scope id flow child inner)
    (hsound : s.Sound) : s.Running id := by
  obtain ⟨task, hwork⟩ := hat.working
  obtain ⟨outer, hlist, hnested⟩ := hwork.nested hsound
  exact ⟨scope, outer, hlist ▸ List.suffix_rfl, hnested⟩

/-- The state in which a flow opens its tasks outlives the child that it drops. -/
theorem AtChild.ambient_dropChild {child : Child} {inner : Task}
    (hat : s.AtChild scope id flow child inner) (hwired : s.Wired) :
    (s.dropChild id child).ambient id { flow with current := none, cursor := child.place } =
      s.ambient id flow := by
  obtain ⟨-, -, -, -, -, hinside⟩ := hat.places hwired
  have hne : child.scope ≠ s.around id flow := (ScopeId.ne_of_lt hinside).symm
  have hscope : (s.dropChild id child).scopeOf id = s.scopeOf id := by
    rw [dropChild, scopeOf_modifyFlow]
    rfl
  have haround : (s.dropChild id child).around id
      { flow with current := none, cursor := child.place } = s.around id flow :=
    around_congr rfl hscope
  rw [ambient, haround, scope_eq, dropChild, scopeAt?_modifyFlow,
    scopeAt?_closeScope_of_ne _ hne]
  rfl

/-- A flow that dropped its child is at the declaration of that child. -/
theorem AtChild.atStep_dropChild {child : Child} {inner : Task} {decl : TaskDecl}
    {activity : Activity} (hat : s.AtChild scope id flow child inner)
    (hgrows : Grows s (s.dropChild id child))
    (hundisturbed : s.Undisturbed id flow child decl inner activity) :
    (s.dropChild id child).AtStep scope id { flow with current := none, cursor := child.place }
      (.openTask decl) := by
  obtain ⟨task, hwork⟩ := hat.working
  obtain ⟨declared, hdeclared, hdecl⟩ := hundisturbed.declared
  refine ⟨⟨_, hwork.changed hgrows rfl rfl
    (fun flow => { flow with current := none, cursor := child.place }) ?_⟩,
    rfl, declared, hdeclared, ?_⟩
  · rw [dropChild, taskAt?_modifyFlow, if_pos rfl, taskAt?_closeScope]
  · exact Flow.nextStep_eq_openTask_iff.mpr ⟨hundisturbed.calm, hundisturbed.within, hdecl⟩

/-- A flow at an update that fails opens it, runs it and fails. -/
theorem AtStep.pull_of_failing_update {decl : TaskDecl} {instructions : List Instruction}
    {error : Error} (hat : s.AtStep scope id flow (.openTask decl))
    (hbreak : s.settings.breakpoints = []) (hshows : s.shows id flow decl = .ok true)
    (hbuilt : s.repository.activity decl (s.ambient id flow) = .ok (.update instructions))
    (hpatch : Instruction.chainedPatch instructions (s.ambient id flow) = .error error) :
    s.pull.1 = .failed error := by
  have hopened := hat.turn_of_opened hshows hbuilt
  have hturned := Session.turned hopened
  have hat' := hat.atChild_openChild hturned.grows
  have hbreak' : (s.openChild id flow decl (.update instructions)).settings.breakpoints = [] := by
    rw [hturned.cursors.2.1, hbreak]
  have heffect : (s.openChild id flow decl (.update instructions)).effect
      (s.declaredTask id decl (.update instructions)) = .error error :=
    effect_eq_error_iff.mpr ⟨instructions, rfl, by rw [stateOf_openChild, hpatch]⟩
  have hlast := hat'.turn_of_effect_error hbreak' rfl heffect
  rw [pull_of_turns (.single hopened) hlast rfl (s.lt_turnLimit (by decide))]

/-- A child that failed fails again: the next pull opens its declaration once more, in the same
state. -/
theorem AtChild.pull_dropChild {child : Child} {inner : Task} {error : Error}
    (hat : s.AtChild scope id flow child inner) (hsound : s.Sound) (hsteady : s.Steady)
    (hbreak : s.settings.breakpoints = []) (hopen : inner.complete = false)
    (heffect : s.effect inner = .error error) :
    (s.dropChild id child).pull.1 = .failed error := by
  have hgrows : Grows s (s.dropChild id child) := (Turned.dropped hat hopen heffect).grows
  obtain ⟨instructions, hactivity, hpatch⟩ := effect_eq_error_iff.mp heffect
  obtain ⟨task, hwork⟩ := hat.working
  obtain ⟨decl, found, activity, hundisturbed⟩ :=
    hsteady.undisturbed id flow child (hat.running hsound) hwork.flowAt? hat.current
  have hfound := hundisturbed.here
  rw [hat.inner] at hfound
  cases hfound
  -- The declaration is built into the same update, which reads the same state.
  have hsame : activity = .update instructions := by
    have hsort := hundisturbed.sort
    rw [hactivity] at hsort
    cases activity with
    | update found => exact hsort
    | _ => cases hsort
  have hleaf : s.stateOf inner = s.ambient id flow := by
    rw [stateOf, (hat.places hsound.wired).1]
    exact hundisturbed.leaf (by simp [Task.takesInput, hactivity])
      (by simp [Task.isFlow, Task.flow?, hactivity])
  have hambient := hat.ambient_dropChild hsound.wired
  have hrepository : (s.dropChild id child).repository = s.repository := hgrows.repository
  refine (hat.atStep_dropChild hgrows hundisturbed).pull_of_failing_update hbreak ?_ ?_
    (hambient ▸ hleaf ▸ hpatch)
  · rw [Session.shows, hambient, hgrows.judge]
    exact hundisturbed.shows
  · rw [hambient, hrepository, ← hsame]
    exact hundisturbed.built

/-! ## A loop that cannot publish -/

/-- A loop that makes no more passes fails to publish however often it is pulled. -/
theorem AtStep.pull_concluded {error : Error} (hat : s.AtStep scope id flow .nextPass)
    (hwired : s.Wired) (hresult : flow.publication (s.scope (s.scopeOf id)).state = .error error) :
    (s.concluded id true).pull.1 = .failed error := by
  have hgrows : Grows s (s.concluded id true) := (Turned.unpublished hat hresult).grows
  obtain ⟨task, hwork⟩ := hat.working
  obtain ⟨declared, hdeclared, hnext⟩ := hat.next
  have hat' : (s.concluded id true).AtStep scope id (flow.concluded true) .nextPass := by
    refine ⟨⟨_, hwork.changed hgrows rfl rfl (Flow.concluded true) ?_⟩, hat.current, declared,
      hdeclared, hnext⟩
    change (s.modifyFlow id _).taskAt? id = _
    rw [taskAt?_modifyFlow, if_pos rfl]
    rfl
  have hstate : ((s.concluded id true).scope ((s.concluded id true).scopeOf id)).state =
      (s.scope (s.scopeOf id)).state := by
    rw [hgrows.scopeOf hwork.here]
    rfl
  have hturn : (s.concluded id true).turn = (.error error, s.concluded id true) := by
    have hpublish := publish_concluded (hat'.places (hwired.concluded id true)).2.1 false
    have hfinished : (flow.concluded true).finished = true := rfl
    rw [hat'.turn_eq, takeStep, nextPass, if_pos hfinished]
    change ((s.concluded id true).concluded id false).publish id = _
    have hmarked : (flow.concluded true).publication (s.scope (s.scopeOf id)).state =
        .error error := hresult
    rw [hpublish, hstate, hmarked]
    rfl
  rw [pull_of_turns (.refl _) hturn rfl (lt_turnLimit _ (by decide))]

end

/-! ## Pulling again -/

/-- A pull that fails does so in its last turn.  If that turn fails to open a declared task, the
flow is left behind the task; after any other failure the next pull fails the same way. -/
theorem pull_of_failed {s s' : Session} {error : Error} (hreach : s.Reachable)
    (hbreak : s.settings.breakpoints = []) (hpull : s.pull = (.failed error, s')) :
    ∃ count r, Turns count s r ∧ r.turn = (.error error, s') ∧
      (∀ id flow, r.FailsToOpen id flow error →
        s' = r.passOver id flow ∧
          s'.flow id = .ok { flow with cursor := flow.cursor + 1 }) ∧
      ((¬ ∃ id flow, r.FailsToOpen id flow error) → s'.pull.1 = .failed error) := by
  obtain ⟨count, r, result, hturns, hlast, hanswer⟩ := exists_last_turn hpull (by simp)
  have hresult : result = .error error := by
    cases result with
    | error found =>
        cases hanswer
        rfl
    | ok turn => cases turn <;> cases hanswer
  subst hresult
  have hsound := Moves.sound hturns.moves hreach.sound
  have hsteady := Moves.steady hturns.moves hreach.sound hreach.steady
  have hbreak' : r.settings.breakpoints = [] := by rw [hturns.settings, hbreak]
  refine ⟨count, r, hturns, hlast, fun id flow hfails => ?_, fun hopens => ?_⟩
  · have hflow := hfails.flowAt?_passOver
    obtain ⟨scope, decl, hat, hcannot⟩ := hfails
    have hturn := hat.turn_of_unopened hcannot
    rw [hlast] at hturn
    cases hturn
    exact ⟨rfl, flow_eq_ok_iff.mpr hflow⟩
  · cases turned hlast with
    | stuck hturn => rw [pull_of_turns (.refl s') hturn rfl (s'.lt_turnLimit (by decide))]
    | left _ _ _ _ _ hleave =>
        unfold leave at hleave
        dsimp only at hleave
        split_ifs at hleave <;> cases hleave
    | dropped hat hopen heffect => exact hat.pull_dropChild hsound hsteady hbreak' hopen heffect
    | unopened hat hcannot => exact absurd ⟨_, _, _, _, hat, hcannot⟩ hopens
    | unpublished hat hresult => exact hat.pull_concluded hsound.wired hresult

/-- A document whose only task copies what is not there. -/
def copyDocument : Document where
  repository :=
    { components := []
      validators := []
      flows := [
        ("main", { tasks := [
                     { name := "copy", preconditions := [],
                       action := .update [{ operand := .path "$.absent", target := "$.copy" }] }],
                   settings := {} })] }
  startingFlow := "main"
  context := .empty
  hash := none

def copySession : Session :=
  (initial copyDocument {} true {}).pull.2

/-- The update fails, and fails again. -/
theorem copySession_pull : copySession.pull.1 = .failed (.nothingAt "$.absent") := by
  have hstart : Session.start copyDocument {} true = .ok (initial copyDocument {} true {}) :=
    start_initial (by decide +kernel) rfl
  have hreach : (initial copyDocument {} true {}).Reachable := ⟨_, _, _, _, hstart, .refl⟩
  have hpull : (initial copyDocument {} true {}).pull =
      (.failed (.nothingAt "$.absent"), copySession) :=
    Prod.ext (by decide +kernel) rfl
  obtain ⟨count, r, -, -, hpassed, hagain⟩ := pull_of_failed hreach rfl hpull
  apply hagain
  rintro ⟨id, flow, hfails⟩
  obtain ⟨-, hflow⟩ := hpassed id flow hfails
  -- The root flow is the only one, and its cursor is back at the update.
  have hsize : copySession.tasks.size = 2 := by decide +kernel
  have hroot : (copySession.flow ⟨0⟩).toOption.map Flow.cursor = some 0 := by decide +kernel
  have hcopy : (copySession.flow ⟨1⟩).toOption.map Flow.cursor = none := by decide +kernel
  obtain ⟨task, htask, -⟩ := flowAt?_eq_some_iff.mp (flow_eq_ok_iff.mp hflow)
  have hlt := taskAt?_lt htask
  rw [hsize] at hlt
  obtain ⟨index⟩ := id
  rcases index with _ | _ | index
  · rw [hflow] at hroot
    simp [Except.toOption] at hroot
  · rw [hflow] at hcopy
    simp [Except.toOption] at hcopy
  · dsimp only at hlt
    omega

/-- A document that makes a call with a payload that is not there, and then shows a screen. -/
def callDocument : Document where
  repository :=
    { components := []
      validators := []
      flows := [
        ("main", { tasks := [
                     { name := "Lookup", preconditions := [],
                       action := .remoteCall
                         { url := "http://api", method := none, payload := .empty,
                           payloadPaths := [{ operand := .path "$.absent", target := "$.who" }],
                           destination := none } },
                     { name := "Done", preconditions := [], action := .screen [] }],
                   settings := {} })] }
  startingFlow := "main"
  context := .empty
  hash := none

def callSession : Session :=
  (initial callDocument {} true {}).pull.2

/-- A failure can be passed over: the call cannot be built, and the next pull hands out the screen
behind it. -/
theorem failure_passed_over :
    ¬ ∀ s s' error, Reachable s → s.settings.breakpoints = [] → s.pull = (.failed error, s') →
      s'.pull.1 = .failed error := by
  intro hagain
  have hstart : Session.start callDocument {} true = .ok (initial callDocument {} true {}) :=
    start_initial (by decide +kernel) rfl
  have hreach : (initial callDocument {} true {}).Reachable := ⟨_, _, _, _, hstart, .refl⟩
  have hpull : (initial callDocument {} true {}).pull =
      (.failed (.nothingAt "$.absent"), callSession) :=
    Prod.ext (by decide +kernel) rfl
  have hagain' := hagain _ _ _ hreach rfl hpull
  have hpassed : callSession.pull.1 = .task ⟨1⟩ := by decide +kernel
  rw [hpassed] at hagain'
  cases hagain'

end Session

end Workflow
