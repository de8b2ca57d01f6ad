import Workflow.Proofs.Session.Publishing

/-!
# What a child leaves to the scope around it

A flow opens its tasks in a scope of its own, or in the scope of the pass that it has open.  While
it has a child open, this scope does not change, `Moment.encloses`: whatever the child runs lies
further in, and acts reach the scopes of tasks that are no flows.  The flow gives its child up in
one of three ways, `Session.GivenUp`: it folds the child, and then the result of the child's scope
is merged into the scope around it; it drops a child that failed; or it is gone back to, or cut off,
and abandons the child.  It never has the child open again.
-/

namespace Workflow

/-- The scope with what a child leaves: it is merged into the state, and in a pass into the result
as well. -/
def Scope.taking (scope : Scope) (counts : Bool) (left : Value) : Scope :=
  { scope with
    state := scope.state.merge left
    result := if counts then scope.result.merge left else scope.result }

/-- The flow is built from its declaration: it starts in the given state with the settings of its
definition, under those given where it is used. -/
def Repository.Builds (repository : Repository) (decl : TaskDecl) (state : Value) (flow : Flow) :
    Prop :=
  ∃ repetition inline declared, decl.action = .flow repetition inline ∧
    Keyed.get? decl.name repository.flows = some declared ∧
    Flow.start decl.name repetition (inline.elim declared.settings declared.settings.overriddenBy)
      state = .ok flow

theorem Repository.builds_of_activity {repository : Repository} {decl : TaskDecl} {state : Value}
    {flow : Flow} (hactivity : repository.activity decl state = .ok (.flow flow)) :
    repository.Builds decl state flow := by
  unfold Repository.activity at hactivity
  split at hactivity
  · obtain ⟨screen, -, hsort⟩ := exists_of_map_eq_ok hactivity
    cases hsort
  · obtain ⟨call, -, hsort⟩ := exists_of_map_eq_ok hactivity
    cases hsort
  · next repetition inline haction =>
      split at hactivity
      · next declared hdeclared =>
          obtain ⟨built, hstart, hsort⟩ := exists_of_map_eq_ok hactivity
          cases hsort
          refine ⟨repetition, inline, declared, haction, hdeclared, ?_⟩
          cases inline <;> exact hstart
      · cases hactivity
  · cases hactivity
  · cases hactivity
  · cases hactivity

namespace Session

/-- A session that a document comes to at some moment of a run. -/
def Met (s : Session) : Prop :=
  ∃ document settings ownsEvents start,
    Session.start document settings ownsEvents = .ok start ∧ start.Evolves s

/-- The flow `id` is running and has the task `child` open in the scope `around`. -/
def Encloses (s : Session) (id : TaskId) (around : ScopeId) (child : TaskId) : Prop :=
  ∃ flow opened, s.Running id ∧ s.flowAt? id = some flow ∧ flow.current = some opened ∧
    opened.task = child ∧ s.around id flow = around

section

variable {r s s' : Session} {id child : TaskId} {around : ScopeId}

theorem Met.evolves (hmet : r.Met) (hevolves : r.Evolves s) : s.Met := by
  obtain ⟨document, settings, ownsEvents, start, hstart, hbefore⟩ := hmet
  exact ⟨document, settings, ownsEvents, start, hstart, hbefore.trans hevolves⟩

theorem Met.orderly (hmet : s.Met) : s.Orderly := by
  obtain ⟨document, settings, ownsEvents, start, hstart, hevolves⟩ := hmet
  exact hevolves.orderly (orderly_start hstart).1

theorem Met.reserved (hmet : s.Met) : s.Reserved := by
  obtain ⟨document, settings, ownsEvents, start, hstart, hevolves⟩ := hmet
  have horderly := (orderly_start hstart).1
  obtain ⟨declared, -, rfl⟩ := start_eq hstart
  exact hevolves.reserved horderly
    (initial_reserved document settings ownsEvents declared.settings)

/-! ## A child that is kept -/

theorem Encloses.lt (hencloses : s.Encloses id around child) (hwired : s.Wired) :
    child.index < s.tasks.size := by
  obtain ⟨flow, opened, -, hflow, hcurrent, rfl, -⟩ := hencloses
  obtain ⟨inner, hinner, -⟩ := (hwired.linked hflow).child hcurrent
  exact taskAt?_lt hinner

/-- A task is the child of one flow, in one scope. -/
theorem Encloses.unique {other : TaskId} {around' : ScopeId}
    (hencloses : s.Encloses id around child) (hother : s.Encloses other around' child)
    (hwired : s.Wired) : other = id ∧ around' = around := by
  obtain ⟨flow, opened, -, hflow, hcurrent, rfl, rfl⟩ := hencloses
  obtain ⟨flow', opened', -, hflow', hcurrent', hsame, rfl⟩ := hother
  obtain ⟨inner, hinner, -, howner⟩ := (hwired.linked hflow).child hcurrent
  obtain ⟨inner', hinner', -, howner'⟩ := (hwired.linked hflow').child hcurrent'
  rw [hsame, hinner] at hinner'
  cases hinner'
  rw [howner] at howner'
  cases howner'
  rw [hflow] at hflow'
  cases hflow'
  exact ⟨rfl, rfl⟩

theorem Keeps.encloses {flow flow' : Flow} {opened opened' : Child}
    (hkeeps : Keeps s s' id flow flow' opened) (hgrows : Grows s s')
    (hcurrent' : flow'.current = some opened') (hchild : opened'.task = child)
    (haround : s'.around id flow' = around) :
    s.Encloses id around child ∧ s'.scopeAt? around = s.scopeAt? around := by
  obtain ⟨task, htask, -⟩ := flowAt?_eq_some_iff.mp hkeeps.before
  have hsame : s.around id flow = around :=
    (around_congr hkeeps.pass (hgrows.scopeOf htask)).symm.trans haround
  have htasks : opened.task = child := by
    rw [← hchild]
    rcases hkeeps.child_eq hcurrent' with rfl | rfl <;> rfl
  exact ⟨⟨flow, opened, hkeeps.running, hkeeps.before, hkeeps.current, htasks, hsame⟩,
    hsame ▸ hkeeps.around⟩

/-- The flow opens the child in the scope `around`, in a scope that begins with the state there and
an empty result. -/
structure OpensChild (s s' : Session) (id : TaskId) (around : ScopeId) (child : TaskId) : Prop where
  opened : ∃ scope flow decl activity, s.AtStep scope id flow (.openTask decl) ∧
    s.repository.activity decl (s.ambient id flow) = .ok activity ∧
    s' = s.openChild id flow decl activity
  turn : s.turn = (.ok .again, s')
  fresh : child = s.nextTask
  inside : s'.scopeOf child = s.nextScope
  state : (s'.scope s.nextScope).state = (s.scope around).state
  result : (s'.scope s.nextScope).result = .empty
  same : s'.scopeAt? around = s.scopeAt? around

theorem Opens.opensChild {flow' : Flow} {opened' : Child} {result : Except Error Turn}
    (hopens : Opens s s' id) (hturn : s.turn = (result, s')) (hwired : s.Wired)
    (hflow' : s'.flowAt? id = some flow') (hcurrent' : flow'.current = some opened')
    (hchild : opened'.task = child) (haround : s'.around id flow' = around) :
    OpensChild s s' id around child := by
  obtain ⟨scope, flow, decl, activity, hat, hshows, hactivity, rfl⟩ := hopens
  rw [flowAt?_openChild hat] at hflow'
  cases hflow'
  cases hcurrent'
  cases hchild
  obtain ⟨task, hwork⟩ := hat.working
  have hgrows := (Turned.opened hat hshows hactivity).grows
  have hplace : s.around id flow = around :=
    (around_congr rfl (hgrows.scopeOf hwork.here)).symm.trans haround
  have hold : around ≠ s.nextScope := by
    rw [← hplace]
    exact ScopeId.ne_of_lt (hat.places hwired).2.2.2.2.2
  have hnew : (s.openChild id flow decl activity).taskAt? s.nextTask =
      some (s.declaredTask id decl activity) := by
    rw [taskAt?_openChild s (taskAt?_lt hwork.here), if_pos rfl]
  have hinside : (s.openChild id flow decl activity).scopeOf s.nextTask = s.nextScope :=
    scopeOf_eq_of_taskAt? hnew
  refine ⟨⟨scope, flow, decl, activity, hat, hactivity, rfl⟩,
    hat.turn_of_opened hshows hactivity, rfl, hinside, ?_, ?_, ?_⟩
  · rw [scope_eq, scopeAt?_openChild, if_pos rfl, ← hplace]
    rfl
  · rw [scope_eq, scopeAt?_openChild, if_pos rfl]
    rfl
  · rw [scopeAt?_openChild, if_neg hold]

/-- What has a child open after a moment had it open before, in the same scope, which has not
changed; or it has just opened it. -/
theorem Moment.encloses (hmoment : Moment s s') (horderly : s.Orderly)
    (hencloses : s'.Encloses id around child) :
    s.Encloses id around child ∧ s'.scopeAt? around = s.scopeAt? around ∨
      OpensChild s s' id around child := by
  have hsound := horderly.sound
  have hgrows := hmoment.grows
  obtain ⟨flow', opened', hrunning', hflow', hcurrent', hchild, haround⟩ := hencloses
  rcases hmoment.cases_alike with ⟨result, hturn⟩ | ⟨acted, -, hact⟩ | halike
  · have hpristine := horderly.accounted.steady.pristine
    rcases keeps_turn hturn hsound hpristine hrunning' hflow' hcurrent' with
      ⟨flow, opened, hkeeps⟩ | hopens
    · exact .inl (hkeeps.encloses hgrows hcurrent' hchild haround)
    · exact .inr (hopens.opensChild hturn hsound.wired hflow' hcurrent' hchild haround)
  · obtain ⟨opened, hkeeps⟩ := keeps_act hact hsound hrunning' hflow' hcurrent'
    exact .inl (hkeeps.encloses hgrows hcurrent' hchild haround)
  · have hrunning := hrunning'.of_suffix hsound hgrows (halike.wired hsound.wired)
      (halike.active ▸ List.suffix_rfl)
    rw [flowAt?, taskAt?, halike.tasks] at hflow'
    have hkeeps := keeps_of_same hflow' hrunning hcurrent' halike.scopes
    exact .inl (hkeeps.encloses hgrows hcurrent' hchild haround)

/-- A task that was there before is the child of a flow only if it was so all along, and the scope
in which it was opened does not change. -/
theorem Evolves.encloses (hevolves : s.Evolves s') (horderly : s.Orderly)
    (hencloses : s'.Encloses id around child) (hold : child.index < s.tasks.size) :
    s.Encloses id around child ∧ s'.scopeAt? around = s.scopeAt? around := by
  induction hevolves with
  | refl => exact ⟨hencloses, rfl⟩
  | @tail m s' hbefore hmoment ih =>
      have hgrows := Evolves.grows hbefore
      rcases hmoment.encloses (Evolves.orderly hbefore horderly) hencloses with ⟨hm, hsame⟩ | hopens
      · obtain ⟨hs, hearlier⟩ := ih hm
        exact ⟨hs, hsame.trans hearlier⟩
      · have hnew := hopens.fresh
        have hle := hgrows.tasks_size
        rw [hnew] at hold
        exact absurd hold (Nat.not_lt.mpr hle)

/-! ## A child that is given up -/

/-- A flow goes on being run after a turn, unless it was complete and is left. -/
theorem Turned.running {result : Except Error Turn} (hturned : s.Turned result s')
    (hsound : s.Sound) (hrunning : s.Running id) (hopen : ¬ s.IsComplete id) : s'.Running id := by
  have hwired := hsound.wired
  have hgrows := hturned.grows
  obtain ⟨innermost, hchain⟩ := hsound.nested.resolve_left hrunning.nonempty
  obtain ⟨hhead, hbound⟩ := hsound.head_of_nested hchain
  obtain ⟨scope, outer, hsuffix, hself⟩ := hrunning
  have hle : id.index ≤ innermost.index := by
    rcases hchain.cases_of_suffix hwired hself hsuffix with rfl | ⟨_, _, _, _, -, -, -, -, -, -, -,
      hlt⟩
    · exact Nat.le_refl _
    · exact Nat.le_of_lt hlt
  have hself' : s'.Nested id (scope :: outer) := hself.grows hwired hgrows fun other hother =>
    (hturned.sameBelow hwired hhead hbound).tasks other (Nat.lt_of_lt_of_le hother hle)
  obtain ⟨-, -, hactive | ⟨hactive, -, hdone⟩ | ⟨_, _, _, entered, _, -, -, -, hactive, -⟩⟩ :=
    hturned.cursors
  · exact ⟨scope, outer, hactive ▸ hsuffix, hself'⟩
  · refine ⟨scope, outer, ?_, hself'⟩
    obtain ⟨rest, hlist⟩ := hchain.eq_cons hwired
    rw [hactive, Cursor.toList_pop hsound.active, hlist, List.tail_cons]
    rw [hlist] at hsuffix
    refine (List.suffix_cons_iff.mp hsuffix).resolve_left fun hwhole => hopen ?_
    rw [(List.cons.inj hwhole).1] at hself
    have hsame := hself.flow_scope hwired
    rw [hbound] at hsame
    cases hsame
    obtain ⟨task, htask, -⟩ := hself.isFlow hwired
    exact ⟨task, htask, hdone _ _ _ hhead hbound htask⟩
  · refine ⟨scope, outer, ?_, hself'⟩
    rw [hactive, Cursor.toList_push hsound.active]
    exact hsuffix.trans (List.suffix_cons _ _)

/-- What a nested flow that is complete has to be folded: its publication, by the settings that it
was built with, from its last state and from its snapshots. -/
structure Concludes (s : Session) (id : TaskId) (flow : Flow) (child : Child) (nested : Flow) :
    Prop where
  published : s.Published child.scope nested
  built : ∃ declared decl built, Keyed.get? flow.definition s.repository.flows = some declared ∧
    declared.tasks[child.place]? = some decl ∧
    s.repository.Builds decl (s.ambient id flow) built ∧ nested.skeleton = built.skeleton

/-- A nested flow is as its flow has built it, as far as that never changes. -/
theorem Running.built {flow nested : Flow} {opened : Child} (hrunning : s.Running id)
    (hsteady : s.Steady) (hflow : s.flowAt? id = some flow) (hcurrent : flow.current = some opened)
    (hnested : s.flowAt? opened.task = some nested) :
    ∃ declared decl built, Keyed.get? flow.definition s.repository.flows = some declared ∧
      declared.tasks[opened.place]? = some decl ∧
      s.repository.Builds decl (s.ambient id flow) built ∧ nested.skeleton = built.skeleton := by
  obtain ⟨decl, inner, activity, hundisturbed⟩ := hsteady.undisturbed id flow opened hrunning hflow
    hcurrent
  obtain ⟨declared, hdeclared, hdecl⟩ := hundisturbed.declared
  rw [flowAt?, hundisturbed.here, Option.bind_some] at hnested
  have hbuilt := hundisturbed.built
  have hsort := hundisturbed.sort
  rw [Task.flow?_eq_some_iff.mp hnested] at hsort
  cases activity with
  | flow built =>
      exact ⟨declared, decl, built, hdeclared, hdecl, Repository.builds_of_activity hbuilt,
        (Activity.flow.inj hsort).symm⟩
  | _ => cases hsort

theorem Running.concludes {flow nested : Flow} {opened : Child} (hrunning : s.Running id)
    (horderly : s.Orderly) (hreserved : s.Reserved) (hflow : s.flowAt? id = some flow)
    (hcurrent : flow.current = some opened) (hnested : s.flowAt? opened.task = some nested)
    (hcomplete : s.IsComplete opened.task) : Concludes s id flow opened nested where
  published := hreserved.published hrunning hflow hcurrent hnested hcomplete
  built := hrunning.built horderly.accounted.steady hflow hcurrent hnested

/-- The flow folds its child, which has run: the result of the child's scope is merged into the
scope around it. -/
structure Folds (s s' : Session) (id : TaskId) (around : ScopeId) (child : TaskId) : Prop where
  turn : s.turn = (.ok .again, s')
  folded : ∃ flow opened inner ran found, s.flowAt? id = some flow ∧ flow.current = some opened ∧
    opened.task = child ∧ s.taskAt? child = some inner ∧
    s.runChild id opened inner = (.ok (), ran) ∧ s' = ran.foldChild id opened ∧
    s.scopeAt? around = some found ∧
    s'.scopeAt? around = some (found.taking flow.pass.isSome (ran.scope opened.scope).result) ∧
    ∀ nested, inner.flow? = some nested → ran = s ∧ Concludes s id flow opened nested

/-- The scope around a child that is folded takes what the child leaves. -/
theorem AtChild.scopeAt?_folded {scope : ScopeId} {flow : Flow} {opened : Child} {inner : Task}
    {ran : Session} (hat : s.AtChild scope id flow opened inner) (hwired : s.Wired)
    (hrun : s.runChild id opened inner = (.ok (), ran)) :
    (ran.foldChild id opened).scopeAt? (s.around id flow) =
      (s.scopeAt? (s.around id flow)).map
        (·.taking flow.pass.isSome (ran.scope opened.scope).result) := by
  obtain ⟨task, hwork⟩ := hat.working
  obtain ⟨-, -, -, -, -, hinside⟩ := hat.places hwired
  obtain ⟨broke, hflow⟩ := hat.flowAt?_runChild hwired hrun
  have hplace : ran.around id { flow with broke } = s.around id flow :=
    around_congr rfl ((runChild_grows hrun).scopeOf hwork.here)
  have hkept := (hat.runChild_sameBelow hwired hrun).scopes _ hinside
  have hne : opened.scope ≠ s.around id flow := (ScopeId.ne_of_lt hinside).symm
  rw [foldChild_eq hflow, hplace, scopeAt?_modifyFlow, scopeAt?_closeScope_of_ne _ hne,
    scopeAt?_modifyScope_self, hkept]
  cases flow.pass <;> rfl

theorem AtChild.folds {scope : ScopeId} {flow : Flow} {opened : Child} {inner : Task}
    {ran : Session} (hat : s.AtChild scope id flow opened inner) (horderly : s.Orderly)
    (hreserved : s.Reserved) (hrunning : s.Running id)
    (hrun : s.runChild id opened inner = (.ok (), ran))
    (hleaf : inner.isFlow = true → inner.complete = true)
    (hturn : s.turn = (.ok .again, ran.foldChild id opened)) :
    Folds s (ran.foldChild id opened) id (s.around id flow) opened.task := by
  have hwired := horderly.wired
  obtain ⟨task, hwork⟩ := hat.working
  have hfound := Array.getElem?_eq_getElem (Linked.around_lt hwired hwork.flowAt?)
  refine ⟨hturn, flow, opened, inner, ran, _, hwork.flowAt?, hat.current, rfl, hat.inner, hrun, rfl,
    hfound, ?_, ?_⟩
  · rw [hat.scopeAt?_folded hwired hrun, scopeAt?, hfound, Option.map_some]
  · intro nested hnested
    have hcomplete := hleaf (by rw [Task.isFlow, hnested]; rfl)
    rcases runChild_cases hrun with ⟨rfl, -⟩ | ⟨_, -, hopen, -⟩
    · exact ⟨rfl, hrunning.concludes horderly hreserved hwork.flowAt? hat.current
        (flowAt?_eq_some_iff.mpr ⟨inner, hat.inner, hnested⟩) ⟨inner, hat.inner, hcomplete⟩⟩
    · rw [hcomplete] at hopen
      cases hopen

/-- The flow drops its child, which has failed. -/
structure Drops (s s' : Session) (id : TaskId) (around : ScopeId) (child : TaskId) : Prop where
  dropped : ∃ flow opened inner error, s.flowAt? id = some flow ∧ flow.current = some opened ∧
    opened.task = child ∧ s.taskAt? child = some inner ∧ s.effect inner = .error error ∧
    s.turn = (.error error, s') ∧ s' = s.dropChild id opened
  same : s'.scopeAt? around = s.scopeAt? around

/-- The flow abandons what it has open: a request to go back has returned it, or has cut it off. -/
structure Abandons (s s' : Session) (id : TaskId) : Prop where
  rest : s.Resting
  back : ∃ task entry, WentBack s s' task entry ∧ (entry.flow = id ∨ ¬ s'.Running id)

/-- What becomes of a child that its flow gives up. -/
inductive GivenUp (s s' : Session) (id : TaskId) (around : ScopeId) (child : TaskId) : Prop
  | folded (hfolds : Folds s s' id around child)
  | dropped (hdrops : Drops s s' id around child)
  | abandoned (habandons : Abandons s s' id)

theorem Encloses.of_flow {flow flow' : Flow} {opened opened' : Child} (hgrows : Grows s s')
    (hflow : s.flowAt? id = some flow) (hchild : opened'.task = opened.task)
    (hrunning' : s'.Running id) (hflow' : s'.flowAt? id = some flow')
    (hcurrent' : flow'.current = some opened') (hpass : flow'.pass = flow.pass) :
    s'.Encloses id (s.around id flow) opened.task := by
  obtain ⟨task, htask, -⟩ := flowAt?_eq_some_iff.mp hflow
  exact ⟨flow', opened', hrunning', hflow', hcurrent', hchild,
    around_congr hpass (hgrows.scopeOf htask)⟩

/-- The flow that a turn works on keeps its child, folds it or drops it. -/
theorem AtChild.encloses {scope : ScopeId} {flow : Flow} {opened : Child} {inner : Task}
    {result : Except Error Turn} (hat : s.AtChild scope id flow opened inner)
    (hturn : s.turn = (result, s')) (horderly : s.Orderly) (hreserved : s.Reserved)
    (hrunning : s.Running id) (hrunning' : s'.Running id) :
    s'.Encloses id (s.around id flow) opened.task ∨
      GivenUp s s' id (s.around id flow) opened.task := by
  obtain ⟨task, hwork⟩ := hat.working
  have hflow := hwork.flowAt?
  have hgrows := (Session.turned hturn).grows
  have hcase := hat.turn_eq
  split_ifs at hcase with hbreak hinput hentered
  · rw [hturn] at hcase
    cases hcase
    have hflow' : (s.markInterrupted id).flowAt? id = some flow.interrupted := by
      rw [markInterrupted_eq, flowAt?_modifyFlow_self, hflow]
      rfl
    have hcurrent' : flow.interrupted.current = some { opened with interrupted := true } := by
      rw [Flow.interrupted, hat.current]
      rfl
    refine .inl (.of_flow hgrows hflow ?_ hrunning' hflow' hcurrent' rfl)
    rfl
  · rw [hturn] at hcase
    cases hcase
    exact .inl (.of_flow hgrows hflow rfl hrunning' hflow hat.current rfl)
  · rw [hturn] at hcase
    cases hcase
    exact .inl (.of_flow hgrows hflow rfl hrunning' hflow hat.current rfl)
  · rw [settleChild] at hcase
    cases hrun : s.runChild id opened inner with
    | mk outcome ran =>
        rw [hrun] at hcase
        cases outcome with
        | ok _ =>
            dsimp only at hcase
            have hleaf : inner.isFlow = true → inner.complete = true := by simpa using hentered
            have hsame := hturn.symm.trans hcase
            cases hsame
            exact .inr (.folded (hat.folds horderly hreserved hrunning hrun hleaf hcase))
        | error error =>
            have hsame := hturn.symm.trans hcase
            cases hsame
            unfold runChild at hrun
            split_ifs at hrun
            · cases hrun
            · split at hrun
              · cases hrun
              · next failure heffect =>
                  cases hrun
                  refine .inr (.dropped ⟨⟨flow, opened, inner, error, hflow, hat.current, rfl,
                    hat.inner, heffect, hcase, rfl⟩, ?_⟩)
                  obtain ⟨-, -, -, -, -, hinside⟩ := hat.places horderly.wired
                  exact scopeAt?_closeScope_of_ne s (ScopeId.ne_of_lt hinside).symm

theorem Encloses.turn {result : Except Error Turn} (hencloses : s.Encloses id around child)
    (hturn : s.turn = (result, s')) (horderly : s.Orderly) (hreserved : s.Reserved) :
    s'.Encloses id around child ∨ GivenUp s s' id around child := by
  have hsound := horderly.sound
  have hturned := turned hturn
  obtain ⟨flow, opened, hrunning, hflow, hcurrent, rfl, rfl⟩ := hencloses
  have hopen : ¬ s.IsComplete id := by
    intro hcomplete
    have hinside := hreserved.done hflow hcomplete
    rw [Flow.inside, hcurrent] at hinside
    simp at hinside
  have hrunning' := hturned.running hsound hrunning hopen
  by_cases hredirected : s.redirectedTo.isSome
  · rw [turn_of_not_running (.inl hredirected)] at hturn
    cases hturn
    exact .inl ⟨flow, opened, hrunning, hflow, hcurrent, rfl, rfl⟩
  · have hcalm : s.redirectedTo = none := by simpa using hredirected
    obtain ⟨innermost, hchain⟩ := hsound.nested.resolve_left hrunning.nonempty
    obtain ⟨hhead, hbound⟩ := hsound.head_of_nested hchain
    obtain ⟨task, htask, hruns⟩ := flowAt?_eq_some_iff.mp hflow
    by_cases hself : innermost = id
    · subst hself
      obtain ⟨inner, hinner, -⟩ := (hsound.wired.linked hflow).child hcurrent
      have hincomplete : task.complete = false := by
        by_contra hcomplete
        exact hopen ⟨task, htask, by simpa using hcomplete⟩
      have hat : s.AtChild (s.scopeOf innermost) innermost flow opened inner :=
        ⟨⟨task, hcalm, hhead, hbound, htask, hincomplete, hruns⟩, hcurrent, hinner⟩
      exact hat.encloses hturn horderly hreserved hrunning hrunning'
    · have hold : id ≠ s.nextTask := TaskId.ne_of_lt (taskAt?_lt htask)
      have hflow' := hturned.flowAt?_of_ne hsound.wired hhead hbound hself hold
      exact .inl (.of_flow hturned.grows hflow rfl hrunning' (hflow'.trans hflow) hcurrent rfl)

theorem Encloses.act {acted : TaskId} (hencloses : s.Encloses id around child)
    (hact : Act acted s s') (hsound : s.Sound) (hrest : s.Resting) :
    s'.Encloses id around child ∨ GivenUp s s' id around child := by
  have hgrows := hact.grows
  obtain ⟨flow, opened, hrunning, hflow, hcurrent, rfl, rfl⟩ := hencloses
  rcases hact.quiet_or_returned with hquiet | ⟨asking, entry, target, -, hentry, htarget, rfl⟩
  · obtain ⟨scope, outer, hsuffix, hself⟩ := hrunning
    have hrunning' : s'.Running id :=
      ⟨scope, outer, hquiet.active ▸ hsuffix, hself.of_flows hsound.wired hgrows hquiet.flows⟩
    exact .inl (.of_flow hgrows hflow rfl hrunning' (hquiet.flowAt? hflow) hcurrent rfl)
  · have hback := hsound.wentBack hentry htarget
    by_cases hkept : entry.flow = id ∨
        ¬ ((s.restore target entry).emit (.backAsked asking.name true)).Running id
    · exact .inr (.abandoned ⟨hrest, asking, entry, hback, hkept⟩)
    · rw [not_or, not_not] at hkept
      obtain ⟨hother, hrunning'⟩ := hkept
      have hflow' : ((s.restore target entry).emit (.backAsked asking.name true)).flowAt? id =
          some flow := by
        rw [flowAt?, hback.returned.2 id (Ne.symm hother), ← flowAt?, hflow]
      exact .inl (.of_flow hgrows hflow rfl hrunning' hflow' hcurrent rfl)

/-- A child that a flow has open stays its child unless it is given up. -/
theorem Encloses.moment (hencloses : s.Encloses id around child) (hmoment : Moment s s')
    (horderly : s.Orderly) (hreserved : s.Reserved) :
    s'.Encloses id around child ∨ GivenUp s s' id around child := by
  rcases hmoment.cases_alike with ⟨result, hturn⟩ | ⟨acted, hrest, hact⟩ | halike
  · exact hencloses.turn hturn horderly hreserved
  · exact hencloses.act hact horderly.sound hrest
  · have hsound := horderly.sound
    obtain ⟨flow, opened, ⟨scope, outer, hsuffix, hself⟩, hflow, hcurrent, rfl, rfl⟩ := hencloses
    have htasks : ∀ other, s'.taskAt? other = s.taskAt? other := by
      simp [taskAt?, halike.tasks]
    have hself' := hself.grows hsound.wired halike.grows fun other _ => htasks other
    refine .inl (.of_flow halike.grows hflow rfl ⟨scope, outer, halike.active ▸ hsuffix, hself'⟩ ?_
      hcurrent rfl)
    rw [flowAt?, htasks, ← flowAt?, hflow]

/-- A child that was given up is never the child of a flow again. -/
theorem Moment.not_encloses (hmoment : Moment s s') (horderly : s.Orderly)
    (hencloses : s.Encloses id around child) (hgone : ¬ s'.Encloses id around child)
    {r : Session} (hevolves : s'.Evolves r) (other : TaskId) (place : ScopeId) :
    ¬ r.Encloses other place child := by
  intro hlater
  have hlt := hencloses.lt horderly.wired
  have hold : child.index < s'.tasks.size := Nat.lt_of_lt_of_le hlt hmoment.grows.tasks_size
  obtain ⟨hafter, -⟩ := hevolves.encloses (hmoment.orderly horderly) hlater hold
  rcases hmoment.encloses horderly hafter with ⟨hbefore, -⟩ | hopens
  · obtain ⟨rfl, rfl⟩ := hencloses.unique hbefore horderly.wired
    exact hgone hafter
  · rw [hopens.fresh] at hlt
    exact Nat.lt_irrefl _ hlt

end

/-- A scope does not change while a flow has a child open in it, whatever happens to the session and
whatever the child runs.  A child is opened with the state of that scope.  It is given up once, and
what is merged into the scope then, if the child is folded, is the result of the child's scope. -/
theorem child_isolated {r : Session} (hmet : r.Met) (id child : TaskId) (around : ScopeId) :
    (∀ s, r.Evolves s → s.Encloses id around child → child.index < r.tasks.size →
      r.Encloses id around child ∧ s.scopeAt? around = r.scopeAt? around) ∧
    (∀ s, Moment r s → s.Encloses id around child →
      r.Encloses id around child ∨ OpensChild r s id around child) ∧
    ∀ s, Moment r s → r.Encloses id around child → ¬ s.Encloses id around child →
      GivenUp r s id around child ∧
        ∀ s', s.Evolves s' → ∀ other place, ¬ s'.Encloses other place child := by
  have horderly := hmet.orderly
  refine ⟨fun s hevolves hencloses hold => hevolves.encloses horderly hencloses hold,
    fun s hmoment hencloses =>
      (hmoment.encloses horderly hencloses).imp And.left fun hopens => hopens,
    fun s hmoment hencloses hgone => ⟨?_, fun s' hevolves =>
      hmoment.not_encloses horderly hencloses hgone hevolves⟩⟩
  exact (hencloses.moment hmoment horderly hmet.reserved).resolve_left hgone

/-- A document whose nested flow drafts a price, and publishes it beside a literal. -/
def quoteDocument : Document where
  repository :=
    { components := []
      validators := []
      flows := [
        ("main", { tasks := [{ name := "quote", preconditions := [], action := .flow .once none }],
                   settings := {} }),
        ("quote", { tasks := [{ name := "draft", preconditions := [],
                                action := .update [{ operand := .literal (.string "five"),
                                                     target := "$.draft" }] }],
                    settings := {
                      literal := some (.object [("fixed", .bool true)])
                      resultPaths := [{ operand := .path "$.draft", target := "$.price" }]
                      destination := some "$.quote" } })] }
  startingFlow := "main"
  context := .object [("customer", .string "someone")]
  hash := none

/-- The session of `quoteDocument` within its pull, when its nested flow is complete and left. -/
def quoted : Session :=
  ((initial quoteDocument {} true {}).pullWithin 6).2

theorem quoted_met : quoted.Met :=
  ⟨quoteDocument, {}, true, initial quoteDocument {} true {},
    start_initial (by decide +kernel) rfl, evolves_pullWithin _ 6⟩

/-- With its next turn the session folds the nested flow.  The scope around it gets what the nested
flow has published, and not its draft, and never has the flow open again. -/
theorem quoted_folded :
    GivenUp quoted quoted.turn.2 ⟨0⟩ ⟨0⟩ ⟨1⟩ ∧
      (quoted.scope ⟨0⟩).state = .object [("customer", .string "someone")] ∧
      (quoted.turn.2.scope ⟨0⟩).state = .object [("customer", .string "someone"),
        ("quote", .object [("fixed", .bool true), ("price", .string "five")])] ∧
      ∀ s', quoted.turn.2.Evolves s' → ∀ other place, ¬ s'.Encloses other place ⟨1⟩ := by
  have hopened : quoted.Encloses ⟨0⟩ ⟨0⟩ ⟨1⟩ := by
    have hroot : quoted.root = ⟨0⟩ := by decide +kernel
    have hactive : quoted.active.toList = [quoted.rootScope] := by decide +kernel
    have hrunning : quoted.Running quoted.root :=
      ⟨quoted.rootScope, [], hactive ▸ List.suffix_rfl, .root⟩
    have hflow : quoted.flowAt? ⟨0⟩ = some
        { definition := "main", repetition := .once, settings := {}, cursor := 1,
          current := some ⟨⟨1⟩, ⟨1⟩, 0, false⟩ } := by
      decide +kernel
    exact ⟨_, _, hroot ▸ hrunning, hflow, rfl, rfl, by decide +kernel⟩
  have hgone : ¬ quoted.turn.2.Encloses ⟨0⟩ ⟨0⟩ ⟨1⟩ := by
    rintro ⟨flow, opened, -, hflow, hcurrent, -⟩
    have hnone : (quoted.turn.2.flowAt? ⟨0⟩).bind Flow.current = none := by decide +kernel
    rw [hflow, Option.bind_some, hcurrent] at hnone
    cases hnone
  obtain ⟨hgiven, hnever⟩ :=
    (child_isolated quoted_met ⟨0⟩ ⟨1⟩ ⟨0⟩).2.2 _ (moment_turn quoted) hopened hgone
  exact ⟨hgiven, by decide +kernel, by decide +kernel, hnever⟩

end Session

end Workflow
