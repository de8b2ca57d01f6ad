import Workflow.Proofs.Interpreter.Tasks

/-!
# Pulling is running by recursion

A session that has entered a flow performs the interpreter's run of it: the tasks of a flow that
runs once, and for a loop one pass after another, each in a scope of its own, until none is due, a
break ended the last one, or the limit is reached.  By induction on how deep the flows nest, the
first pull of a document that waits for nothing comes to what the interpreter comes to.
-/

namespace Workflow

/-- The loop between two of its passes, which it may have finished. -/
def Flow.betweenPasses (flow : Flow) (cursor : Nat) (finished : Bool) : Flow :=
  { flow with cursor, current := none, pass := none, broke := false, finished }

def Flow.inPass (flow : Flow) (pass : ScopeId) : Flow :=
  { flow with pass := some pass, cursor := 0, broke := false, passes := flow.passes + 1 }

namespace Session

variable {s s' : Session} {scope : ScopeId} {id : TaskId} {flow : Flow}
  {body : Interpreter.Body} {repository : Repository} {host : Host} {limit : Nat}

/-! ## Publishing -/

theorem Between.around_of_pass_eq_none (hbetween : s.Between scope id flow body)
    (hwired : s.Wired) (hpass : flow.pass = none) : s.around id flow = scope := by
  obtain ⟨task, hwork⟩ := hbetween.working
  rw [around_eq, hpass]
  exact hwork.scopeOf_eq hwired

theorem Leads.of_turn (hturn : s.turn = (.ok .again, s')) (hwired : s.Wired) {task : Task}
    (hwork : s.Working scope id task flow) (hactive : s'.active = s.active)
    (hevents : s'.events = s.events) : Leads s s' id scope [] :=
  .of_eq ((turned hturn).sameBelow hwired hwork.head hwork.bound) hactive hevents

/-- A flow that publishes ends. -/
theorem Between.performs_publish (hbetween : s.Between scope id flow body) (hwired : s.Wired)
    (hpass : flow.pass = none) (mark : Bool)
    (hturn : s.turn = (s.concluded id mark).publish id) :
    s.Performs id scope 1 (Interpreter.publish flow body.state) fun ending s' =>
      s'.Ended scope id ending := by
  obtain ⟨task, hwork⟩ := hbetween.working
  obtain ⟨hactive, -, -, hredirected, hevents, hscopes⟩ := concluded_others s id mark
  have hscope := hwork.scopeOf_eq hwired
  have hstate := hbetween.state
  have hresult := hbetween.result
  rw [hbetween.around_of_pass_eq_none hwired hpass] at hstate hresult
  rw [publish_concluded hwork.flowAt? mark, hscope, hstate] at hturn
  unfold Interpreter.publish
  cases hpublication : flow.publication body.state with
  | error error =>
      rw [hpublication] at hturn
      exact performs_of_failed hturn hevents
  | ok result =>
      rw [hpublication] at hturn
      have hleads := Leads.of_turn hturn hwired hwork hactive hevents
      have hgrows := (turned hturn).grows
      obtain ⟨found, hfound⟩ := hwired.exists_scopeAt? hwork.here
      rw [hscope] at hfound
      rw [scope_eq_of_scopeAt? hfound] at hstate hresult
      have hpublished : (s.published id mark result).scopeAt? scope =
          some (found.mergeResult result) := by
        have hsame : (s.concluded id mark).scopeAt? scope = some found := by
          rw [scopeAt?, hscopes]
          exact hfound
        rw [published, hscope, scopeAt?_complete, scopeAt?_modifyScope_self, hsame]
        rfl
      rw [Interpreter.Result.ofExcept_ok_andThen]
      refine ⟨1, _, Nat.le_refl _, .single hturn, hleads, hredirected.trans hwork.running, ?_,
        hgrows.scope_flow hwork.bound, ?_, ?_, ?_⟩
      · exact (congrArg Cursor.head? hactive).trans hwork.head
      · have hmarked : ∃ task, (s.concluded id mark).taskAt? id = some task :=
          (((Grows.refl s).concluded id mark).tasks hwork.here).imp fun _ h => h.1
        obtain ⟨marked, hmarked⟩ := hmarked
        refine ⟨{ marked with complete := true }, ?_, rfl⟩
        rw [published, taskAt?_complete, if_pos rfl, taskAt?_modifyScope, hmarked]
        rfl
      · rw [scope_eq_of_scopeAt? hpublished]
        exact hstate
      · rw [scope_eq_of_scopeAt? hpublished, Scope.mergeResult, hresult, hpass]
        rfl

/-! ## One pass -/

theorem Between.isPassDue (hbetween : s.Between scope id flow body) (hpass : flow.pass = none) :
    s.isPassDue id flow = Interpreter.isDue s.repository s.settings.host flow body.state := by
  have hstate := hbetween.state
  rw [around_eq, hpass, Option.getD_none] at hstate
  unfold Session.isPassDue Interpreter.isDue
  cases flow.repetition with
  | whileConditions =>
      dsimp only
      rw [hstate]
      rfl
  | forItems => rfl
  | once => rfl

theorem AtStep.turn_of_nextPass (hat : s.AtStep scope id flow .nextPass)
    (hfinished : flow.finished = false) :
    s.turn =
      match s.isPassDue id flow with
      | .error error => (.error error, s)
      | .ok false => (s.concluded id true).publish id
      | .ok true =>
        if s.settings.maxLoopPasses ≤ flow.passes then
          (.error (.tooManyPasses flow.definition s.settings.maxLoopPasses), s)
        else (.ok .again, s.openPass id flow) := by
  rw [hat.turn_eq, takeStep, nextPass, if_neg (by simp [hfinished])]
  cases s.isPassDue id flow with
  | error error => rfl
  | ok due => cases due <;> rfl

theorem AtStep.turn_of_finished (hat : s.AtStep scope id flow .nextPass)
    (hfinished : flow.finished = true) : s.turn = (s.concluded id false).publish id := by
  rw [hat.turn_eq, takeStep, nextPass, if_pos hfinished]
  rfl

theorem AtStep.turn_of_foldPass (hat : s.AtStep scope id flow .foldPass) {pass : ScopeId}
    (hpass : flow.pass = some pass) {snapshot : Value}
    (hsnapshot : flow.snapshotOf (s.scope pass).state (s.scope pass).result = .ok snapshot) :
    s.turn = (.ok .again, s.endPass id pass snapshot) := by
  rw [hat.turn_eq, takeStep, foldPass, hpass]
  dsimp only
  rw [hsnapshot]
  rfl

theorem AtStep.turn_of_snapshot_error (hat : s.AtStep scope id flow .foldPass) {pass : ScopeId}
    (hpass : flow.pass = some pass) {error : Error}
    (hsnapshot : flow.snapshotOf (s.scope pass).state (s.scope pass).result = .error error) :
    s.turn = (.error error, s) := by
  rw [hat.turn_eq, takeStep, foldPass, hpass]
  dsimp only
  rw [hsnapshot]

/-- A pass is opened on what the loop gives it to start with. -/
theorem Between.openPass (hbetween : s.Between scope id flow body) (hpass : flow.pass = none)
    (hgrows : Grows s (s.openPass id flow)) :
    SameBelow s (s.openPass id flow) id s.nextScope ∧
      (s.openPass id flow).Between scope id (flow.inPass s.nextScope)
        { state := flow.passStart body.state, result := .empty, broke := false } := by
  obtain ⟨task, hwork⟩ := hbetween.working
  have hstate := hbetween.state
  rw [around_eq, hpass, Option.getD_none] at hstate
  have haround : (s.openPass id flow).around id (flow.inPass s.nextScope) = s.nextScope := rfl
  have htask : (s.openPass id flow).taskAt? id =
      (s.taskAt? id).map (Task.mapFlow (·.inPass s.nextScope)) := by
    rw [Session.openPass, taskAt?_modifyFlow, if_pos rfl, taskAt?_openScope]
    rfl
  have hscope : (s.openPass id flow).scopeAt? s.nextScope =
      some (.opened (flow.passStart body.state) (some (s.scopeOf id))) := by
    rw [Session.openPass, scopeAt?_modifyFlow, scopeAt?_openScope, if_pos rfl, hstate]
  refine ⟨?_, ⟨_, hwork.changed hgrows rfl rfl _ htask⟩, hbetween.current, rfl, ?_, ?_⟩
  · exact ((SameBelow.refl s id s.nextScope).openScope (Nat.le_refl _) _ _).modifyFlow
      (Nat.le_refl _) _
  · rw [haround, scope_eq_of_scopeAt? hscope]
    rfl
  · rw [haround, scope_eq_of_scopeAt? hscope]
    rfl

/-- The result of a pass goes into the state of the loop. -/
theorem Between.endPass (hbetween : s.Between scope id flow body) (hwired : s.Wired)
    {pass : ScopeId} (hpass : flow.pass = some pass) {state snapshot : Value}
    (hstate : (s.scope scope).state = state) (hresult : (s.scope scope).result = .empty)
    (hgrows : Grows s (s.endPass id pass snapshot)) :
    (s.endPass id pass snapshot).Between scope id (flow.foldPass snapshot)
      { state := state.merge body.result, result := .empty, broke := false } := by
  obtain ⟨task, hwork⟩ := hbetween.working
  have hscope := hwork.scopeOf_eq hwired
  have hleft := hbetween.result
  rw [around_eq, hpass, Option.getD_some, Option.isSome_some, if_pos rfl] at hleft
  have hlt := ((hwired.linked hwork.flowAt?).pass hpass).2
  rw [hscope] at hlt
  have hne : pass ≠ scope := (ScopeId.ne_of_lt hlt).symm
  obtain ⟨found, hfound⟩ := hwired.exists_scopeAt? hwork.here
  rw [hscope] at hfound
  rw [scope_eq_of_scopeAt? hfound] at hstate hresult
  have htask : (s.endPass id pass snapshot).taskAt? id =
      (s.taskAt? id).map (Task.mapFlow (·.foldPass snapshot)) := by
    rw [Session.endPass, taskAt?_modifyFlow, if_pos rfl, taskAt?_closeScope, taskAt?_modifyScope]
  have hfolded : (s.endPass id pass snapshot).scopeAt? scope =
      some (found.mergeState body.result) := by
    rw [Session.endPass, hscope, scopeAt?_modifyFlow, scopeAt?_closeScope_of_ne _ hne,
      scopeAt?_modifyScope_self, hfound, hleft]
    rfl
  have haround : (s.endPass id pass snapshot).around id (flow.foldPass snapshot) = scope := by
    rw [around_eq, hgrows.scopeOf hwork.here, hscope]
    rfl
  refine ⟨⟨_, hwork.changed hgrows rfl rfl (·.foldPass snapshot) htask⟩, hbetween.current, rfl,
    ?_, ?_⟩
  · rw [haround, scope_eq_of_scopeAt? hfolded, Scope.mergeState, hstate]
  · rw [haround, scope_eq_of_scopeAt? hfolded]
    exact hresult

section

variable {declared : FlowDecl} {bound : Nat} {cursor : Nat} {state : Value} {loop : Flow}
  {enter : Flow → Value → Interpreter.Result Interpreter.Ending}

theorem Between.atNextPass {finished : Bool}
    (hbetween : s.Between scope id (loop.betweenPasses cursor finished) body)
    (hloop : loop.isLoop = true)
    (hdeclared : Keyed.get? loop.definition s.repository.flows = some declared) :
    s.AtStep scope id (loop.betweenPasses cursor finished) .nextPass := by
  have hnext : (loop.betweenPasses cursor finished).nextStep declared.tasks = .nextPass := by
    unfold Flow.nextStep
    exact if_pos (Bool.and_eq_true_iff.mpr ⟨hloop, rfl⟩)
  rw [← hnext]
  exact hbetween.atStep hdeclared

/-- A loop that has another pass due performs it. -/
theorem Between.performs_pass
    (hbetween : s.Between scope id (loop.betweenPasses cursor false)
      { state, result := .empty, broke := false })
    (hprepared : s.Prepared repository host limit) (hloop : loop.isLoop = true)
    (hdeclared : Keyed.get? loop.definition repository.flows = some declared)
    (hrunnable : Runnable repository host limit bound enter declared)
    (hturn : s.turn = (.ok .again, s.openPass id (loop.betweenPasses cursor false))) :
    s.Performs id scope (declared.tasks.length * (bound + 4) + 2)
      (Interpreter.runPass (fun state => Interpreter.runTasks enter repository host declared.tasks
        { state, result := .empty, broke := false }) loop state) fun pass s' =>
          ∃ cursor, s'.Between scope id
            ((Interpreter.passed loop pass.snapshot).betweenPasses cursor pass.broke)
            { state := state.merge pass.result, result := .empty, broke := false } := by
  have hwired := hprepared.sound.wired
  have hgrows := (turned hturn).grows
  obtain ⟨task, hwork⟩ := hbetween.working
  have hscope := hwork.scopeOf_eq hwired
  have hown := hbetween.around_of_pass_eq_none hwired rfl
  have hlt : scope.index < s.nextScope.index := by
    rw [← hscope]
    exact hwired.scopeOf_lt hwork.here
  have hleads := Leads.of_turn hturn hwired hwork rfl rfl
  have hopened := (Turns.single hturn).prepared hprepared
  obtain ⟨hbelow, hpass⟩ := hbetween.openPass rfl hgrows
  have htasks := hpass.performs_tasks hopened hdeclared rfl (fun _ => rfl) rfl hrunnable
  have hframed := htasks.framed.mono (Nat.le_refl _) (Nat.le_refl _) (Nat.le_of_lt hlt)
    fun _ _ h => h
  apply Performs.of_turn hturn hleads
  refine hframed.andThen fun count events body r hturns _ hbody => ?_
  obtain ⟨⟨last, hbetween', hnext⟩, hsame⟩ := hbody
  have hprepared' := hturns.prepared hopened
  have hat := hbetween'.atStep (hprepared'.repository ▸ hdeclared)
  have hend : ((loop.betweenPasses cursor false).inPass s.nextScope).endStep = .foldPass :=
    if_pos hloop
  rw [hnext, hend] at hat
  have hstate : (r.scope s.nextScope).state = body.state := hbetween'.state
  have hresult : (r.scope s.nextScope).result = body.result := hbetween'.result
  -- The loop's own scope is older than the pass, and nothing has happened to it meanwhile.
  have howner : r.scope scope = s.scope scope := by
    apply scope_congr
    exact (hsame.scopes scope hlt).trans (hbelow.scopes scope hlt)
  have hloopState := hbetween.state
  have hloopResult := hbetween.result
  rw [hown, ← howner] at hloopState hloopResult
  cases hsnapshot : loop.snapshotOf body.state body.result with
  | error error =>
      rw [Interpreter.Result.ofExcept_error_andThen]
      have hfails := hat.turn_of_snapshot_error rfl (by rw [hstate, hresult]; exact hsnapshot)
      exact performs_of_failed hfails rfl
  | ok snapshot =>
      rw [Interpreter.Result.ofExcept_ok_andThen]
      have hends := hat.turn_of_foldPass rfl (by rw [hstate, hresult]; exact hsnapshot)
      have hwired' := hprepared'.sound.wired
      obtain ⟨task', hwork'⟩ := hbetween'.working
      have hgrows' := (turned hends).grows
      exact ⟨1, _, Nat.le_refl _, .single hends, .of_turn hends hwired' hwork' rfl rfl, last,
        hbetween'.endPass hwired' rfl hloopState hloopResult hgrows'⟩

/-- A loop between two passes performs those that are left, and publishes what they left. -/
theorem Between.performs_passes {s : Session} {loop : Flow} {state : Value} {cursor left : Nat}
    (hbetween : s.Between scope id (loop.betweenPasses cursor false)
      { state, result := .empty, broke := false })
    (hprepared : s.Prepared repository host limit) (hloop : loop.isLoop = true)
    (hleft : loop.passes + left = limit)
    (hdeclared : Keyed.get? loop.definition repository.flows = some declared)
    (hrunnable : Runnable repository host limit bound enter declared) :
    s.Performs id scope (left * (declared.tasks.length * (bound + 4) + 2) + 1)
      ((Interpreter.runPasses
        (fun state => Interpreter.runTasks enter repository host declared.tasks
          { state, result := .empty, broke := false })
        repository host limit left loop state).andThen
          fun last => Interpreter.publish last.1 last.2)
      fun ending s' => s'.Ended scope id ending := by
  have hwired := hprepared.sound.wired
  have hturn := (hbetween.atNextPass hloop (hprepared.repository ▸ hdeclared)).turn_of_nextPass rfl
  have hdue : s.isPassDue id (loop.betweenPasses cursor false) =
      Interpreter.isDue repository host loop state := by
    rw [hbetween.isPassDue rfl, hprepared.repository, hprepared.host]
    rfl
  rw [hdue, hprepared.limit] at hturn
  unfold Interpreter.runPasses
  cases hresult : Interpreter.isDue repository host loop state with
  | error error =>
      rw [hresult] at hturn
      exact performs_of_failed hturn rfl
  | ok due =>
      rw [hresult] at hturn
      cases due with
      | false =>
          have hpublished := hbetween.performs_publish hwired rfl true hturn
          dsimp only
          rw [Interpreter.Result.done_andThen]
          exact hpublished.of_le (by omega)
      | true =>
          cases left with
          | zero =>
              have hlimit : limit ≤ (loop.betweenPasses cursor false).passes := by
                rw [← hleft]
                exact Nat.le_refl _
              dsimp only at hturn
              rw [if_pos hlimit] at hturn
              exact performs_of_failed hturn rfl
          | succ left =>
              have hlimit : ¬limit ≤ (loop.betweenPasses cursor false).passes := by
                rw [← hleft]
                exact Nat.not_le.mpr (Nat.lt_add_of_pos_right (Nat.succ_pos left))
              dsimp only at hturn ⊢
              rw [if_neg hlimit] at hturn
              have hpass := hbetween.performs_pass hprepared hloop hdeclared hrunnable hturn
              have hcount : (left + 1) * (declared.tasks.length * (bound + 4) + 2) + 1 =
                  declared.tasks.length * (bound + 4) + 2 +
                    (left * (declared.tasks.length * (bound + 4) + 2) + 1) := by
                rw [Nat.add_mul, Nat.one_mul]
                omega
              rw [Interpreter.Result.andThen_assoc, hcount]
              refine hpass.andThen fun count events pass r hturns _ hafter => ?_
              obtain ⟨last, hbetween'⟩ := hafter
              have hprepared' := hturns.prepared hprepared
              cases hbroke : pass.broke with
              | true =>
                  rw [hbroke] at hbetween'
                  have hat' := hbetween'.atNextPass hloop (hprepared'.repository ▸ hdeclared)
                  have hpublished := hbetween'.performs_publish hprepared'.sound.wired rfl false
                    (hat'.turn_of_finished rfl)
                  rw [if_pos rfl, Interpreter.Result.done_andThen]
                  exact hpublished.of_le (by omega)
              | false =>
                  rw [hbroke] at hbetween'
                  have hleft' : (Interpreter.passed loop pass.snapshot).passes + left = limit := by
                    rw [← hleft]
                    exact Nat.succ_add_eq_add_succ _ _
                  exact hbetween'.performs_passes hprepared' hloop hleft' hdeclared hrunnable
termination_by left

end

/-! ## A whole flow -/

/-- A flow that has been entered performs its run, if nothing in it waits. -/
theorem enters_of_unattendedWithin {depth : Nat} {name : String}
    (hunattended : repository.UnattendedWithin depth name) :
    Enters repository host limit (repository.turnBound limit depth)
      (Interpreter.runFlow repository host limit depth) name := by
  induction depth generalizing name with
  | zero => exact hunattended.elim
  | succ depth ih =>
      intro s scope id flow state hprepared hentered hname
      subst hname
      have hwired := hprepared.sound.wired
      have hbetween := hentered.between
      obtain ⟨task, hwork⟩ := hbetween.working
      unfold Interpreter.runFlow
      cases hdeclared : Keyed.get? flow.definition repository.flows with
      | none =>
          have hturn : s.turn = (.error (.noFlow flow.definition), s) := by
            rw [hwork.turn_eq, hbetween.current]
            simp only [proceed, hprepared.repository, hdeclared]
          exact performs_of_failed hturn rfl
      | some declared =>
          have hwithin := hunattended declared hdeclared
          have hrunnable : Runnable repository host limit (repository.turnBound limit depth)
              (Interpreter.runFlow repository host limit depth) declared := by
            constructor
            · intro decl hdecl
              exact (hwithin decl hdecl).1
            · intro decl hdecl hreference hthere
              exact ih ((hwithin decl hdecl).2 ⟨declared, hdeclared, decl, hdecl, rfl, hreference⟩
                hthere)
          have htasks : declared.tasks.length * (repository.turnBound limit depth + 4) ≤
              repository.maxTasks * (repository.turnBound limit depth + 4) :=
            Nat.mul_le_mul_right _ (Repository.length_tasks_le hdeclared)
          dsimp only
          by_cases hloop : flow.isLoop = true
          · have hpasses : flow.passes = 0 := by rw [hentered.fresh]
            have hsame : flow = flow.betweenPasses 0 false := by
              rw [hentered.fresh]
              rfl
            rw [hsame] at hbetween
            have hrun := hbetween.performs_passes hprepared hloop (by rw [hpasses, Nat.zero_add])
              hdeclared hrunnable
            have hbound := Nat.mul_le_mul (Nat.le_succ limit) (Nat.add_le_add_right htasks 2)
            rw [if_pos hloop]
            exact hrun.of_le (Nat.succ_le_succ hbound)
          · have hcursor : flow.cursor = 0 := by rw [hentered.fresh]
            have hpass : flow.pass = none := by rw [hentered.fresh]
            have hrun := hbetween.performs_tasks hprepared hdeclared rfl (fun h => absurd h hloop)
              (by rw [hcursor, List.drop_zero]) hrunnable
            rw [hbetween.around_of_pass_eq_none hwired hpass] at hrun
            have hbound : declared.tasks.length * (repository.turnBound limit depth + 4) + 1 ≤
                repository.turnBound limit (depth + 1) := by
              have hpass := Nat.le_mul_of_pos_left
                (repository.maxTasks * (repository.turnBound limit depth + 4) + 2)
                (show 0 < limit + 1 from Nat.succ_pos limit)
              rw [Repository.turnBound]
              omega
            rw [if_neg hloop]
            refine Performs.of_le (hrun.andThen fun count events body r hturns _ hafter => ?_)
              hbound
            obtain ⟨cursor, hbetween', hnext⟩ := hafter
            have hprepared' := hturns.prepared hprepared
            have hat := hbetween'.atStep (hprepared'.repository ▸ hdeclared)
            have hend : flow.endStep = .publish := if_neg hloop
            rw [hnext, hend] at hat
            exact hbetween'.performs_publish hprepared'.sound.wired hpass false hat.turn_eq

/-! ## The first pull -/

/-- The last flow to be left finishes the session, and its trees can still be read. -/
theorem Ended.finish {ending : Interpreter.Ending} (hended : s.Ended scope id ending)
    (hsound : s.Sound) (hlist : s.active.toList = [scope]) (hroot : s.root = id) :
    ∃ s', s.turn = (.ok .ended, s') ∧ s'.isFinished = true ∧ s'.result = ending.result ∧
      s'.state = ending.state ∧ s'.events = s.events := by
  obtain ⟨task, htask, hcomplete⟩ := hended.complete
  have hwired := hsound.wired
  have hscope := hwired.scopeOf_eq hended.bound
  have hrootScope : s.rootScope = scope := by rw [rootScope, hroot, hscope]
  have hempty : s.active.pop.isEmpty = true := by
    rw [Cursor.isEmpty_eq hsound.active.pop, Cursor.toList_pop hsound.active, hlist]
    rfl
  obtain ⟨found, hfound⟩ := hwired.exists_scopeAt? htask
  rw [hscope] at hfound
  have hstate := hended.state
  have hresult := hended.result
  rw [scope_eq_of_scopeAt? hfound] at hstate hresult
  have hturn : s.turn =
      (.ok .ended, Session.closeScope { s with active := s.active.pop } scope) := by
    rw [Session.turn_of_complete hended.running hended.head hended.bound htask hcomplete, leave]
    simp only [hempty, ↓reduceIte]
  have hclosed : (Session.closeScope { s with active := s.active.pop } scope).scopeAt? scope =
      some (found.release true) := by
    have hkeeps : (scope == Session.rootScope { s with active := s.active.pop }) = true := by
      rw [beq_iff_eq]
      exact hrootScope.symm
    rw [scopeAt?_closeScope, if_pos rfl, hkeeps]
    exact congrArg (Option.map _) hfound
  have hkept : (found.release true).state = found.state ∧
      (found.release true).result = found.result := by
    cases hreleased : found.released <;> simp [Scope.release, hreleased]
  have hread : (Session.closeScope { s with active := s.active.pop } scope).scope
      (Session.closeScope { s with active := s.active.pop } scope).rootScope =
        found.release true := by
    have hsame : (Session.closeScope { s with active := s.active.pop } scope).rootScope = scope :=
      hrootScope
    rw [hsame, scope_eq_of_scopeAt? hclosed]
  refine ⟨_, hturn, hempty, ?_, ?_, rfl⟩
  · rw [Session.result, hread, hkept.2, hresult]
  · rw [Session.state, hread, hkept.1, hstate]

/-- A turn that fails leaves a flow to be run. -/
theorem Turned.isFinished_of_error {error : Error} (hturned : s.Turned (.error error) s')
    (hsound : s.Sound) : s'.isFinished = false := by
  have hopen : s.active.head? ≠ none → s.active.isEmpty = false := by
    rw [Cursor.head?_eq hsound.active, Cursor.isEmpty_eq hsound.active]
    cases s.active.toList with
    | nil => exact fun hne => absurd rfl hne
    | cons _ _ => exact fun _ => rfl
  have hat : ∀ {scope id flow step}, s.AtStep scope id flow step → s.active.isEmpty = false := by
    intro scope id flow step hat
    obtain ⟨task, hwork⟩ := hat.working
    exact hopen (by simp [hwork.head])
  cases hturned with
  | stuck hturn =>
      apply hopen
      intro hnone
      rw [turn_of_not_running (.inr hnone)] at hturn
      cases hturn
  | left _ _ _ _ _ hleave =>
      unfold leave at hleave
      dsimp only at hleave
      split_ifs at hleave <;> cases hleave
  | dropped hchild =>
      obtain ⟨task, hwork⟩ := hchild.working
      exact hopen (by simp [hwork.head])
  | unopened hstep => exact hat hstep
  | unpublished hstep => exact hat hstep

/-- A pull comes to what a run of the interpreter comes to: it ends with the session finished, and
with the result, the state and the events of the run, or it fails with the error of the run. -/
inductive PullsTo (s : Session) : Interpreter.Result Interpreter.Ending → Prop
  | done {ending : Interpreter.Ending} {events : List Event} (hended : s.pull.1 = .ended)
      (hfinished : s.pull.2.isFinished = true) (hresult : s.pull.2.result = ending.result)
      (hstate : s.pull.2.state = ending.state) (hevents : s.pull.2.events.toList = events) :
      PullsTo s (.done ending events)
  | failed {error : Error} {events : List Event} (hfailed : s.pull.1 = .failed error)
      (hopen : s.pull.2.isFinished = false) (hevents : s.pull.2.events.toList = events) :
      PullsTo s (.failed error events)

/-- The first pull of a document that waits for nothing comes to what running the document by
recursion comes to. -/
theorem pullsTo_run {document : Document} {settings : SessionSettings} {ownsEvents : Bool}
    {s : Session} (hstart : Session.start document settings ownsEvents = .ok s)
    (hacyclic : document.repository.Acyclic)
    (hunattended : document.repository.Unattended document.startingFlow)
    (hunpaused : settings.breakpoints = []) :
    s.PullsTo (Interpreter.run document settings.host settings.maxLoopPasses) := by
  obtain ⟨declared, hdeclared, rfl⟩ := start_eq hstart
  have hprepared : (initial document settings ownsEvents declared.settings).Prepared
      document.repository settings.host settings.maxLoopPasses :=
    ⟨initial_sound document settings ownsEvents declared.settings, rfl, rfl, rfl, hunpaused⟩
  have hlist : (initial document settings ownsEvents declared.settings).active.toList = [⟨0⟩] :=
    Cursor.toList_push Cursor.valid_empty _
  have hentered : (initial document settings ownsEvents declared.settings).Entered ⟨0⟩ ⟨0⟩
      { definition := document.startingFlow, repetition := .once,
        settings := declared.settings } document.context := by
    refine ⟨⟨⟨_, rfl, ?_, rfl, rfl, rfl, rfl⟩, rfl, rfl, rfl, rfl⟩, rfl⟩
    rw [Cursor.head?_eq hprepared.sound.active, hlist]
    rfl
  have hthere : Keyed.contains document.startingFlow document.repository.flows = true := by
    rw [Keyed.contains, hdeclared]
    rfl
  have hperforms := enters_of_unattendedWithin (hacyclic.unattendedWithin hunattended hthere)
    hprepared hentered rfl
  have hlimit := (initial document settings ownsEvents declared.settings).turnBound_lt_turnLimit
  rw [Interpreter.run, hdeclared]
  dsimp only
  generalize Interpreter.runFlow document.repository settings.host settings.maxLoopPasses
    document.repository.flows.length _ document.context = result at hperforms
  cases result with
  | stuck =>
      exact hperforms.elim
  | failed error events =>
      obtain ⟨count, r, s', hcount, hturns, hlast, hevents⟩ := hperforms
      have hpull := pull_of_turns hturns hlast rfl
        (Nat.lt_of_le_of_lt hcount (Nat.lt_of_succ_lt hlimit))
      have hopen := (turned hlast).isFinished_of_error (hturns.prepared hprepared).sound
      exact .failed (by rw [hpull]) (by rw [hpull]; exact hopen) (by rw [hpull]; exact hevents)
  | done ending events =>
      obtain ⟨count, r, hcount, hturns, hleads, hended⟩ := hperforms
      obtain ⟨s', hlast, hfinished, hresult, hstate, hevents⟩ :=
        hended.finish (hturns.prepared hprepared).sound (hleads.active.trans hlist)
          (Moves.grows hturns.moves).root
      have hpull := pull_of_turns hturns hlast rfl
        (Nat.lt_of_le_of_lt hcount (Nat.lt_of_succ_lt hlimit))
      refine .done (by rw [hpull]) (by rw [hpull]; exact hfinished) (by rw [hpull]; exact hresult)
        (by rw [hpull]; exact hstate) ?_
      rw [hpull, hevents]
      exact hleads.events

/-- A document that greets the guests on a list until it comes to one that it has to stop at, and
publishes how far it came. -/
def guestDocument : Document where
  repository :=
    { components := []
      validators := [
        ("isBob", { rule := .equals, message := { template := "", sort := "" }, passesWhen := true,
                    subjectPath := some "$.item", expectedPath := none,
                    expected := .string "Bob" })]
      flows := [
        ("greet", { tasks := [
                      { name := "remember", preconditions := [],
                        action := .update [{ operand := .path "$.item", target := "$.last" }] },
                      { name := "stop", preconditions := ["isBob"], action := .event "break" },
                      { name := "hello", preconditions := [], action := .event "wave" }],
                    settings := { itemsPath := some "$.guests",
                                  destination := some "$.greeted" } }),
        ("main", { tasks := [
                     { name := "greet", preconditions := [], action := .flow .forItems none },
                     { name := "done", preconditions := [], action := .event "leave" }],
                   settings := { resultPaths := [{ operand := .path "$.greeted",
                                                   target := "$.guests" }] } })] }
  startingFlow := "main"
  context := .object [("guests", .list [.string "Ann", .string "Bob", .string "Cid"])]
  hash := none

def guestSettings : FlowSettings :=
  { resultPaths := [{ operand := .path "$.greeted", target := "$.guests" }] }

/-- The break in the second pass of the nested loop stops the loop and not the flow around it. -/
theorem guestDocument_pull :
    (initial guestDocument {} true guestSettings).pull.1 = .ended ∧
      (initial guestDocument {} true guestSettings).pull.2.result =
        .object [("guests", .list [.object [("last", .string "Ann")],
          .object [("last", .string "Bob")]])] ∧
      (initial guestDocument {} true guestSettings).pull.2.events.toList =
        [.marker "hello" "wave", .marker "done" "leave"] := by
  have hstart : Session.start guestDocument {} true =
      .ok (initial guestDocument {} true guestSettings) :=
    start_initial (by decide +kernel) rfl
  have hacyclic : guestDocument.repository.Acyclic := by
    apply Repository.acyclic_of_rank fun name => if name = "main" then 1 else 0
    decide
  have hunattended : guestDocument.repository.Unattended guestDocument.startingFlow := by
    apply Repository.unattended_of_forall
    decide
  have hrun : Interpreter.run guestDocument ({} : SessionSettings).host
      ({} : SessionSettings).maxLoopPasses =
      .done
        { result := .object [("guests", .list [.object [("last", .string "Ann")],
            .object [("last", .string "Bob")]])]
          state := .object [
            ("greeted", .list [.object [("last", .string "Ann")],
              .object [("last", .string "Bob")]]),
            ("guests", .list [.string "Ann", .string "Bob", .string "Cid"])] }
        [.marker "hello" "wave", .marker "done" "leave"] := by decide +kernel
  have hpull := pullsTo_run hstart hacyclic hunattended rfl
  rw [hrun] at hpull
  cases hpull with
  | done hended _ hresult _ hevents => exact ⟨hended, hresult, hevents⟩

end Session

end Workflow
