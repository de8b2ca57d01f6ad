import Workflow.Proofs.Session.Passes
import Workflow.Proofs.Value.Association

/-!
# What a pass accumulates

While a pass of a loop is open, its scope takes what the children leave that the loop folds, and
nothing else reaches it: `Moment.keepsPass` says so of one moment, and `Evolves.gathers` of all of
them.  The loop itself gets nothing before the pass ends, and then the whole result at once.  It
comes to the state that it would have from taking the children one after another, unless one of them
leaves an object where the loop has one and those before it have left something else,
`Value.Interrupts`.
-/

namespace Workflow

theorem Scope.result_foldl_taking (scope : Scope) (results : List Value) :
    (results.foldl (taking · true ·) scope).result = results.foldl Value.merge scope.result := by
  induction results generalizing scope with
  | nil => rfl
  | cons left rest ih => exact ih (scope.taking true left)

namespace Session

/-- The flow is running, and has a pass open in the scope. -/
def InPass (s : Session) (id : TaskId) (pass : ScopeId) : Prop :=
  s.Running id ∧ ∃ flow, s.flowAt? id = some flow ∧ flow.pass = some pass

/-- The state of a loop, from which its passes begin and into which they end. -/
def loopState (s : Session) (id : TaskId) : Value :=
  (s.scope (s.scopeOf id)).state

/-- The flow begins a pass in the scope. -/
structure BeginsPass (s s' : Session) (id : TaskId) (pass : ScopeId) : Prop where
  step : ∃ scope flow, s.AtStep scope id flow .nextPass ∧ s' = s.openPass id flow
  turn : s.turn = (.ok .again, s')
  fresh : pass = s.nextScope

/-- The flow folds a child that has run in its pass, and the scope of the pass takes what the child
leaves. -/
structure Takes (s s' : Session) (id : TaskId) (pass : ScopeId) (left : Value) : Prop where
  turn : s.turn = (.ok .again, s')
  folded : ∃ flow opened inner ran, s.flowAt? id = some flow ∧ flow.pass = some pass ∧
    flow.current = some opened ∧ s.taskAt? opened.task = some inner ∧
    s.runChild id opened inner = (.ok (), ran) ∧ s' = ran.foldChild id opened ∧
    left = (ran.scope opened.scope).result
  taken : s'.scopeAt? pass = (s.scopeAt? pass).map (·.taking true left)

/-- What the scope of a pass takes from one session to another, in order. -/
inductive Gathers (r : Session) (id : TaskId) (pass : ScopeId) : List Value → Session → Prop
  | begun : Gathers r id pass [] r
  | still {results : List Value} {s s' : Session} (hbefore : Gathers r id pass results s)
      (hmoment : Moment s s') (hsame : s'.scopeAt? pass = s.scopeAt? pass) :
      Gathers r id pass results s'
  | took {results : List Value} {left : Value} {s s' : Session}
      (hbefore : Gathers r id pass results s) (htakes : Takes s s' id pass left) :
      Gathers r id pass (results ++ [left]) s'

variable {q r s s' : Session} {id : TaskId} {pass : ScopeId} {flow flow' : Flow}

/-! ## The open pass -/

/-- Only its beginning and going back give a flow a pass, and then in a new scope. -/
theorem Booked.pass_eq (hbooked : Booked s s' id flow flow') (hpass : flow'.pass = some pass)
    (hold : pass.index < s.scopes.size) : flow.pass = some pass := by
  have hne : pass ≠ s.nextScope := ScopeId.ne_of_lt hold
  cases hbooked with
  | moved hledger => rw [← (Flow.of_ledger hledger).2.1, hpass]
  | broken | concluded => exact hpass
  | begun =>
      cases hpass
      exact absurd rfl hne
  | ended => cases hpass
  | @returned entry =>
      obtain ⟨trees, -, rfl⟩ := Option.map_eq_some_iff.mp hpass
      exact absurd rfl hne

/-- A flow with a pass that is running after a moment was running before: one that has just been
entered has no pass. -/
theorem Moment.running_before (hmoment : Moment s s') (horderly : s.Orderly)
    (hin : s'.InPass id pass) : s.Running id := by
  have hsound := horderly.sound
  have hgrows := hmoment.grows
  have hwired' := (hmoment.orderly horderly).wired
  obtain ⟨hrunning, flow', hflow', hpass⟩ := hin
  rcases hmoment.cases_alike with ⟨result, hturn⟩ | ⟨acted, -, hact⟩ | halike
  · rcases running_before_turn (turned hturn) hsound hrunning with hbefore |
      ⟨top, owner, around, child, inner, hat, hisFlow, hopen, rfl, htasks⟩
    · exact hbefore
    · obtain ⟨task, hwork⟩ := hat.working
      obtain ⟨outer, hlist, hnested⟩ := hwork.nested hsound
      rw [← hlist] at hnested
      rw [flowAt?, taskAt?, htasks, ← taskAt?, hat.inner] at hflow'
      have hnone : flow'.inside = [] := horderly.accounted.untouched owner around child inner flow'
        hnested hwork.flowAt? hat.current hat.inner hopen hflow'
      have hmem : pass ∈ flow'.inside := Flow.mem_inside.mpr (.inr hpass)
      rw [hnone] at hmem
      cases hmem
  · obtain ⟨scope, outer, hsuffix, hnested⟩ := hrunning
    refine running_of_suffix hsound hgrows hwired' ?_ hnested
    rcases hact.quiet_or_returned with hquiet | ⟨asking, entry, target, -, hentry, htarget, rfl⟩
    · exact hquiet.active ▸ hsuffix
    · obtain ⟨above, found, rest, hlist, -, hactive, -⟩ := (hsound.wentBack hentry htarget).unwound
      rw [hactive] at hsuffix
      rw [hlist]
      exact hsuffix.trans (List.suffix_append _ _)
  · obtain ⟨scope, outer, hsuffix, hnested⟩ := hrunning
    exact running_of_suffix hsound hgrows hwired' (halike.active ▸ hsuffix) hnested

/-- A moment leaves the scope of the loop as it is, and what it does to the scope of the pass is to
take what a child leaves. -/
structure KeepsPass (s s' : Session) (id : TaskId) (pass : ScopeId) : Prop where
  pass : s'.scopeAt? pass = s.scopeAt? pass ∨ ∃ left, Takes s s' id pass left
  loop : s'.scopeAt? (s.scopeOf id) = s.scopeAt? (s.scopeOf id)

theorem keepsPass_of_same (hscopes : s'.scopes = s.scopes) : KeepsPass s s' id pass := by
  constructor
  · exact .inl (by rw [scopeAt?, hscopes, scopeAt?])
  · rw [scopeAt?, hscopes, scopeAt?]

theorem SameBelow.keepsPass {other : TaskId} {lower : ScopeId} (hsame : SameBelow s s' other lower)
    (hwired : s.Wired) (hflow : s.flowAt? id = some flow) (hpass : flow.pass = some pass)
    (hbelow : pass.index < lower.index) : KeepsPass s s' id pass := by
  have hlt := ((hwired.linked hflow).pass hpass).2
  exact ⟨.inl (hsame.scopes _ hbelow), hsame.scopes _ (hlt.trans hbelow)⟩

/-- What is inside the flow that a flow has open is further in than its pass. -/
theorem Nested.pass_lt {innermost : TaskId} {scope : ScopeId} {scopes outer : List ScopeId}
    (hnested : s.Nested innermost scopes) (hwired : s.Wired) (hself : s.Nested id (scope :: outer))
    (hsuffix : scope :: outer <:+ scopes) (hne : id ≠ innermost)
    (hflow : s.flowAt? id = some flow) (hpass : flow.pass = some pass) :
    pass.index < (s.scopeOf innermost).index := by
  rcases hnested.cases_of_suffix hwired hself hsuffix with heq | ⟨task, found, child, inner, htask,
    -, hruns, hcurrent, -, -, hle, -⟩
  · exact absurd heq hne
  · have hsame := flowAt?_eq_some_iff.mpr ⟨task, htask, hruns⟩
    rw [hflow] at hsame
    cases hsame
    have hinside := (hwired.linked hflow).inside hcurrent
    rw [around_eq, hpass, Option.getD_some] at hinside
    exact Nat.lt_of_lt_of_le hinside hle

/-- A child that is folded within a pass is taken by its scope. -/
theorem AtChild.takes {scope : ScopeId} {opened : Child} {inner : Task} {ran : Session}
    (hat : s.AtChild scope id flow opened inner) (hwired : s.Wired) (hpass : flow.pass = some pass)
    (hrun : s.runChild id opened inner = (.ok (), ran))
    (hturn : s.turn = (.ok .again, ran.foldChild id opened)) :
    Takes s (ran.foldChild id opened) id pass (ran.scope opened.scope).result := by
  obtain ⟨task, hwork⟩ := hat.working
  have hfolded := hat.scopeAt?_folded hwired hrun
  rw [around_eq, hpass, Option.getD_some] at hfolded
  exact ⟨hturn, ⟨flow, opened, inner, ran, hwork.flowAt?, hpass, hat.current, hat.inner, hrun, rfl,
    rfl⟩, hfolded⟩

/-- An update that runs in a pass leaves its patch. -/
theorem AtChild.takes_patch {scope : ScopeId} {opened : Child} {inner : Task}
    {instructions : List Instruction} {patch : Value}
    (hat : s.AtChild scope id flow opened inner) (hwired : s.Wired) (hpass : flow.pass = some pass)
    (hunpaused : s.settings.breakpoints = []) (hactivity : inner.activity = .update instructions)
    (hopen : inner.complete = false)
    (hpatch : Instruction.chainedPatch instructions (s.stateOf inner) = .ok patch) :
    Takes s s.turn.2 id pass ((s.scope opened.scope).result.merge patch) := by
  have heffect : s.effect inner = .ok (s.modifyScope inner.scope (·.mergeResult patch)) := by
    rw [effect, hactivity]
    dsimp only
    rw [hpatch]
    rfl
  have hinput : inner.requiresInput = false := by simp [Task.requiresInput, hactivity]
  have hleaf : inner.isFlow = false := by simp [Task.isFlow, Task.flow?, hactivity]
  have hturn := hat.turn_of_effect hunpaused hinput hleaf hopen heffect
  have hrun : s.runChild id opened inner =
      (.ok (), (s.modifyScope inner.scope (·.mergeResult patch)).complete opened.task) := by
    rw [runChild, if_neg (by simp [hopen])]
    simp only [heffect]
  have hleft : (((s.modifyScope inner.scope (·.mergeResult patch)).complete opened.task).scope
      opened.scope).result = (s.scope opened.scope).result.merge patch := by
    have hscope := (hat.places hwired).1
    obtain ⟨found, hfound⟩ := hwired.exists_scopeAt? hat.inner
    rw [scopeOf_eq_of_taskAt? hat.inner, hscope] at hfound
    rw [scope_eq, scopeAt?_complete, hscope, scopeAt?_modifyScope_self, hfound,
      scope_eq_of_scopeAt? hfound]
    rfl
  have htakes := hat.takes hwired hpass hrun hturn
  rw [hturn]
  exact hleft ▸ htakes

/-- A turn of the innermost flow keeps its pass, if the flow still has it afterwards: a pass that
ends is taken from the flow. -/
theorem Turned.keepsPass {scope : ScopeId} {result : Except Error Turn}
    (hturned : s.Turned result s') (hturn : s.turn = (result, s')) (horderly : s.Orderly)
    (hhead : s.active.head? = some scope) (hbound : (s.scope scope).flow = some id)
    (hflow : s.flowAt? id = some flow) (hpass : flow.pass = some pass)
    (hafter : ∃ flow', s'.flowAt? id = some flow' ∧ flow'.pass = some pass) :
    KeepsPass s s' id pass := by
  have hwired := horderly.wired
  obtain ⟨hfree, hlt⟩ := (hwired.linked hflow).pass hpass
  have haround : s.around id flow = pass := by rw [around_eq, hpass, Option.getD_some]
  have hold : ∀ {other : ScopeId}, other.index ≤ pass.index → other ≠ s.nextScope := fun hle =>
    ScopeId.ne_of_lt (Nat.lt_of_le_of_lt hle (bindingAt?_lt hfree))
  have hinside : flow.inside ≠ [] := fun hnone => by
    have hmem := Flow.mem_inside.mpr (.inr hpass)
    rw [hnone] at hmem
    cases hmem
  have hwork : ∀ {scope' id' task flow'}, s.Working scope' id' task flow' →
      id' = id ∧ flow' = flow := by
    intro scope' id' task flow' hwork
    obtain ⟨rfl, rfl⟩ := hwork.unique hhead hbound
    have hsame := hwork.flowAt?
    rw [hflow] at hsame
    exact ⟨rfl, (Option.some.inj hsame).symm⟩
  cases hturned with
  | idle | stuck | waiting | unbound | entered | interrupted => exact keepsPass_of_same rfl
  | left _ hhead' hbound' htask hcomplete =>
      rw [hhead] at hhead'
      cases hhead'
      have hempty := horderly.emptied _ _ _ hhead hbound' htask hcomplete
      rw [hbound] at hbound'
      cases hbound'
      rw [insideOf_eq hflow] at hempty
      exact absurd hempty hinside
  | @settled _ self found opened _ ran hat _ _ hrun =>
      obtain ⟨task, hworking⟩ := hat.working
      obtain ⟨rfl, rfl⟩ := hwork hworking
      obtain ⟨-, -, -, -, -, hinner⟩ := hat.places hwired
      rw [haround] at hinner
      obtain ⟨broke, hran⟩ := hat.flowAt?_runChild hwired hrun
      have hplace : ran.around self { found with broke } = pass := by
        rw [around_eq, hpass, Option.getD_some]
      have hsame : SameBelow s (ran.foldChild self opened) self pass :=
        ((hat.runChild_sameBelow hwired hrun).mono (Nat.le_refl _) (Nat.le_of_lt hinner)).foldChild
          hran (by rw [hplace]) (Nat.le_of_lt hinner)
      exact ⟨.inr ⟨_, hat.takes hwired hpass hrun hturn⟩, hsame.scopes _ hlt⟩
  | @dropped _ self _ opened _ _ hat =>
      obtain ⟨task, hworking⟩ := hat.working
      obtain ⟨rfl, rfl⟩ := hwork hworking
      obtain ⟨-, -, -, -, -, hinner⟩ := hat.places hwired
      rw [haround] at hinner
      have hsame : SameBelow s (s.dropChild self opened) self opened.scope :=
        ((SameBelow.refl s _ _).closeScope (Nat.le_refl _)).modifyFlow (Nat.le_refl _) _
      exact hsame.keepsPass hwired hflow hpass hinner
  | skipped hat | unopened hat =>
      obtain ⟨task, hworking⟩ := hat.working
      obtain ⟨rfl, rfl⟩ := hwork hworking
      exact ⟨.inl (scopeAt?_passOver _ _ _ (hold (Nat.le_refl _))),
        scopeAt?_passOver _ _ _ (hold (Nat.le_of_lt hlt))⟩
  | opened hat =>
      refine ⟨.inl ?_, ?_⟩
      · rw [scopeAt?_openChild, if_neg (hold (Nat.le_refl _))]
      · rw [scopeAt?_openChild, if_neg (hold (Nat.le_of_lt hlt))]
  | passOpened hat | unpublished hat =>
      obtain ⟨task, hworking⟩ := hat.working
      obtain ⟨rfl, rfl⟩ := hwork hworking
      exact absurd (hat.inside_eq_nil horderly.accounted.placed (.inr rfl)) hinside
  | published hat hstep =>
      obtain ⟨task, hworking⟩ := hat.working
      obtain ⟨rfl, rfl⟩ := hwork hworking
      exact absurd (hat.inside_eq_nil horderly.accounted.placed hstep) hinside
  | passEnded hat =>
      obtain ⟨task, hworking⟩ := hat.working
      obtain ⟨rfl, rfl⟩ := hwork hworking
      obtain ⟨flow', hflow', hpass'⟩ := hafter
      rw [endPass, flowAt?_modifyFlow_self, flowAt?_closeScope, flowAt?_modifyScope, hflow]
        at hflow'
      cases hflow'
      cases hpass'

/-- An act reaches neither the scope of a pass nor that of a flow. -/
theorem Quiet.keepsPass {acted : TaskId} (hquiet : Quiet acted s s') (hwired : s.Wired)
    (hflow : s.flowAt? id = some flow) (hpass : flow.pass = some pass) :
    KeepsPass s s' id pass := by
  obtain ⟨task, htask, hruns⟩ := flowAt?_eq_some_iff.mp hflow
  constructor
  · refine .inl ((hquiet.scopes pass).resolve_right ?_)
    rintro ⟨other, hother, -, hscope⟩
    exact hwired.pass_ne hflow hpass hother hscope.symm
  · refine (hquiet.scopes (s.scopeOf id)).resolve_right ?_
    rintro ⟨other, hother, hinput, hscope⟩
    rw [scopeOf_eq_of_taskAt? htask] at hscope
    cases hwired.eq_of_scope_eq hother htask hscope
    rw [htask] at hother
    cases hother
    have hleaf := Task.isFlow_of_takesInput hinput
    rw [Task.isFlow, hruns] at hleaf
    cases hleaf

/-- What stays running around a flow, when everything inside that flow is cut off, has its pass
further out. -/
theorem Nested.pass_lt_of_running {innermost : TaskId} {target : ScopeId} {rest : List ScopeId}
    (hnested : s.Nested innermost (target :: rest)) (hwired : s.Wired) (hwired' : s'.Wired)
    (hgrows : Grows s s') (hactive : s'.active.toList = target :: rest) (hne : id ≠ innermost)
    (hrunning' : s'.Running id) (hflow : s.flowAt? id = some flow) (hpass : flow.pass = some pass) :
    pass.index < target.index := by
  obtain ⟨scope, outer, hsuffix, hself'⟩ := hrunning'
  rw [hactive] at hsuffix
  obtain ⟨other, hself⟩ := hnested.of_suffix hsuffix
  have hsame := hgrows.scope_flow (hself.flow_scope hwired)
  rw [hself'.flow_scope hwired'] at hsame
  cases hsame
  rw [← hnested.scopeOf_eq hwired]
  exact hnested.pass_lt hwired hself hsuffix hne hflow hpass

/-- A loop whose pass is open after a moment had it open before, and what the moment does to the
scope of the pass is to take what a child leaves. -/
theorem Moment.keepsPass (hmoment : Moment s s') (horderly : s.Orderly)
    (hin : s'.InPass id pass) (hold : pass.index < s.scopes.size) :
    s.InPass id pass ∧ KeepsPass s s' id pass := by
  have hsound := horderly.sound
  have hwired := hsound.wired
  have hrunning := hmoment.running_before horderly hin
  obtain ⟨hrunning', flow', hflow', hpass'⟩ := hin
  obtain ⟨flow, hflow, hbooked⟩ :
      ∃ flow, s.flowAt? id = some flow ∧ Booked s s' id flow flow' := by
    refine (hmoment.booked hsound hflow').resolve_right ?_
    rintro ⟨_, _, _, decl, -, -, ⟨repetition, inline, declared, -, -, hstart⟩, -⟩
    rw [Flow.start_eq hstart] at hpass'
    cases hpass'
  have hpass := hbooked.pass_eq hpass' hold
  refine ⟨⟨hrunning, flow, hflow, hpass⟩, ?_⟩
  rcases hmoment.cases_alike with ⟨result, hturn⟩ | ⟨acted, -, hact⟩ | halike
  · obtain ⟨innermost, hchain⟩ := hsound.nested.resolve_left hrunning.nonempty
    obtain ⟨hhead, hbound⟩ := hsound.head_of_nested hchain
    by_cases hself : innermost = id
    · subst hself
      exact (turned hturn).keepsPass hturn horderly hhead hbound hflow hpass ⟨flow', hflow', hpass'⟩
    · obtain ⟨scope, outer, hsuffix, hnested⟩ := hrunning
      exact ((turned hturn).sameBelow hwired hhead hbound).keepsPass hwired hflow hpass
        (hchain.pass_lt hwired hnested hsuffix (Ne.symm hself) hflow hpass)
  · rcases hact.quiet_or_returned with hquiet | ⟨asking, entry, target, -, hentry, htarget, rfl⟩
    · exact hquiet.keepsPass hwired hflow hpass
    · obtain ⟨⟨before, hbefore, hafter⟩, -⟩ := (hsound.wentBack hentry htarget).returned
      have hne : id ≠ entry.flow := by
        rintro rfl
        rw [hflow'] at hafter
        cases hafter
        obtain ⟨trees, -, rfl⟩ := Option.map_eq_some_iff.mp hpass'
        exact absurd hold (Nat.lt_irrefl _)
      obtain ⟨innermost, hchain⟩ := hsound.nested.resolve_left hrunning.nonempty
      obtain ⟨-, rest, hsuffix, hnested⟩ := hchain.of_returnTarget? hwired htarget
      have hrestored := restored hwired hsound.active hchain hsuffix hnested
      have hsame : SameBelow s ((s.restore target entry).emit (.backAsked asking.name true))
          entry.flow target :=
        ⟨hrestored.same.tasks, hrestored.same.scopes⟩
      exact hsame.keepsPass hwired hflow hpass <|
        hnested.pass_lt_of_running hwired (hmoment.orderly horderly).wired hmoment.grows
          hrestored.active hne hrunning' hflow hpass
  · exact keepsPass_of_same halike.scopes

/-! ## A pass from its beginning to its end -/

theorem Gathers.evolves {results : List Value} (hgathers : Gathers r id pass results s) :
    r.Evolves s := by
  induction hgathers with
  | begun => exact .refl
  | still _ hmoment _ ih => exact ih.tail hmoment
  | took _ htakes ih => exact ih.tail (.turn htakes.turn)

theorem Gathers.scopeAt? {results : List Value} (hgathers : Gathers r id pass results s) :
    s.scopeAt? pass = (r.scopeAt? pass).map (results.foldl (Scope.taking · true ·)) := by
  induction hgathers with
  | begun => exact Option.map_id'.symm
  | still _ _ hsame ih => rw [hsame, ih]
  | took _ htakes ih =>
      rw [htakes.taken, ih, Option.map_map]
      congr 1
      funext scope
      rw [List.foldl_append]
      rfl

/-- While the pass stays open, its scope takes what children leave and nothing else, and the loop
gets nothing. -/
theorem Evolves.gathers (hevolves : r.Evolves s) (horderly : r.Orderly) (hin : s.InPass id pass)
    (hold : pass.index < r.scopes.size) :
    (∃ results, Gathers r id pass results s) ∧
      s.scopeAt? (s.scopeOf id) = r.scopeAt? (r.scopeOf id) := by
  induction hevolves with
  | refl => exact ⟨⟨[], .begun⟩, rfl⟩
  | @tail m s hbefore hmoment ih =>
      have hthere : pass.index < m.scopes.size := by
        obtain ⟨found, hfound, -⟩ :=
          (Evolves.grows hbefore).scopes (Array.getElem?_eq_getElem hold)
        exact scopeAt?_lt hfound
      obtain ⟨hearlier, hkeeps⟩ :=
        hmoment.keepsPass (Evolves.orderly hbefore horderly) hin hthere
      obtain ⟨⟨results, hgathers⟩, hloop⟩ := ih hearlier
      obtain ⟨-, flow, hflow, -⟩ := hearlier
      obtain ⟨task, htask, -⟩ := flowAt?_eq_some_iff.mp hflow
      refine ⟨?_, by rw [hmoment.grows.scopeOf htask, hkeeps.loop, hloop]⟩
      rcases hkeeps.pass with hsame | ⟨left, htakes⟩
      · exact ⟨results, hgathers.still hmoment hsame⟩
      · exact ⟨results ++ [left], hgathers.took htakes⟩

/-- A pass begins with an empty result, and the loop does not change. -/
theorem BeginsPass.scopes (hbegins : BeginsPass q r id pass) (hwired : q.Wired) :
    (∃ opened, r.scopeAt? pass = some opened ∧ opened.result = .empty) ∧
      r.scopeAt? (r.scopeOf id) = q.scopeAt? (q.scopeOf id) := by
  obtain ⟨scope, flow, hat, rfl⟩ := hbegins.step
  obtain ⟨task, hwork⟩ := hat.working
  have hscope := (turned hbegins.turn).grows.scopeOf hwork.here
  have hold : q.scopeOf id ≠ q.nextScope := ScopeId.ne_of_lt (hwired.scopeOf_lt hwork.here)
  rw [hscope, hbegins.fresh]
  refine ⟨⟨.opened (flow.passStart (q.scope (q.scopeOf id)).state) (some (q.scopeOf id)), ?_, rfl⟩,
    ?_⟩
  · rw [openPass, scopeAt?_modifyFlow, scopeAt?_openScope, if_pos rfl]
  · rw [openPass, scopeAt?_modifyFlow, scopeAt?_openScope, if_neg hold]

theorem EndsPass.inPass {snapshot : Value} (hends : EndsPass s s' id flow pass snapshot)
    (hsound : s.Sound) : s.InPass id pass := by
  obtain ⟨scope, hat⟩ := hends.step
  obtain ⟨task, hwork⟩ := hat.working
  obtain ⟨outer, hlist, hnested⟩ := hwork.nested hsound
  exact ⟨⟨scope, outer, hlist ▸ List.suffix_rfl, hnested⟩, flow, hwork.flowAt?, hends.within⟩

/-- At its end the loop gets the result of the pass. -/
theorem EndsPass.loopState_eq {snapshot : Value} (hends : EndsPass s s' id flow pass snapshot)
    (hwired : s.Wired) : s'.loopState id = (s.loopState id).merge (s.scope pass).result := by
  obtain ⟨scope, hat⟩ := hends.step
  obtain ⟨task, hwork⟩ := hat.working
  have hne : pass ≠ s.scopeOf id :=
    (ScopeId.ne_of_lt ((hwired.linked hwork.flowAt?).pass hends.within).2).symm
  obtain ⟨found, hfound⟩ := hwired.exists_scopeAt? hwork.here
  have hended : s'.scopeAt? (s.scopeOf id) = some (found.mergeState (s.scope pass).result) := by
    rw [hends.after, endPass, scopeAt?_modifyFlow, scopeAt?_closeScope_of_ne _ hne,
      scopeAt?_modifyScope_self, hfound, Option.map_some]
  rw [loopState, (turned hends.turn).grows.scopeOf hwork.here, scope_eq_of_scopeAt? hended,
    loopState, scope_eq_of_scopeAt? hfound, Scope.mergeState]

/-- Two patches come to the same over a base one after another and at once, if the first does not
interrupt an object that the base and the second have.  In a pass of a loop the scope of the pass
takes what children leave and nothing else.  When the pass ends, the loop, which has got nothing so
far, gets all of it merged together.  If no child meets an object of the loop that those before it
interrupt, this is the state that the loop would have from taking the children one by one. -/
theorem accumulated_eq_one_by_one :
    (∀ base patch written : Value, base.Canonical → patch.Canonical → written.Canonical →
      ¬ patch.Interrupts base written →
        (base.merge patch).merge written = base.merge (patch.merge written)) ∧
    ∀ (q r : Session) (id : TaskId) (pass : ScopeId), q.Met → BeginsPass q r id pass →
      (∀ s, r.Evolves s → s.InPass id pass → ∃ results, Gathers r id pass results s) ∧
      ∀ s s' flow snapshot results, Gathers r id pass results s →
        EndsPass s s' id flow pass snapshot →
          s'.loopState id = (q.loopState id).merge (results.foldl Value.merge .empty) ∧
            ((q.loopState id).isObject = true → (q.loopState id).Canonical →
              (∀ left ∈ results, left.Canonical) →
              (∀ before left after, results = before ++ left :: after →
                ¬ (before.foldl Value.merge .empty).Interrupts (q.loopState id) left) →
                  s'.loopState id = results.foldl Value.merge (q.loopState id)) := by
  refine ⟨fun base patch written hbase hpatch hwritten hnone =>
    Value.merge_assoc hbase hpatch hwritten fun hrevives => hnone hrevives.interrupts, ?_⟩
  intro q r id pass hmet hbegins
  have horderly := hmet.orderly
  have horderly' := (Moment.turn hbegins.turn).orderly horderly
  obtain ⟨⟨opened, hopened, hempty⟩, hloop⟩ := hbegins.scopes horderly.wired
  refine ⟨fun s hevolves hin => (hevolves.gathers horderly' hin (scopeAt?_lt hopened)).1, ?_⟩
  intro s s' flow snapshot results hgathers hends
  have hsound := (hgathers.evolves.orderly horderly').sound
  have hkept := (hgathers.evolves.gathers horderly' (hends.inPass hsound)
    (scopeAt?_lt hopened)).2.trans hloop
  have hresult : (s.scope pass).result = results.foldl Value.merge .empty := by
    have hpass := hgathers.scopeAt?
    rw [hopened, Option.map_some] at hpass
    rw [scope_eq_of_scopeAt? hpass, Scope.result_foldl_taking, hempty]
  have hended : s'.loopState id =
      (q.loopState id).merge (results.foldl Value.merge .empty) := by
    rw [hends.loopState_eq hsound.wired, hresult, loopState, scope_eq, hkept, ← scope_eq, loopState]
  refine ⟨hended, fun hobject hcanonical hresults hnone => ?_⟩
  rw [hended, Value.merge_foldl hcanonical Value.canonical_empty hresults hnone,
    Value.merge_empty hobject]

/-- What a child leaves in a pass: an order, in the place of null, and a total with its currency, in
the place of a number. -/
def firstOrder : Value :=
  .object [("customer", .object [("orders", .object [("first", .bool true)])]),
    ("total", .object [("eur", .number (.int 5))])]

def secondOrder : Value :=
  .object [("customer", .object [("orders", .object [("second", .bool false)])])]

def addFirst : List Instruction :=
  [{ operand := .literal (.object [("first", .bool true)]), target := "$.customer.orders" },
    { operand := .literal (.object [("eur", .number (.int 5))]), target := "$.total" }]

def addSecond : List Instruction :=
  [{ operand := .literal (.bool false), target := "$.customer.orders.second" }]

/-- A document with a loop over one item, which adds two orders of a customer who has none yet. -/
def ordersDocument : Document where
  repository :=
    { components := []
      validators := []
      flows := [
        ("main", { tasks := [
                     { name := "order", preconditions := [], action := .flow .forItems none }],
                   settings := {} }),
        ("order", { tasks := [
                      { name := "first", preconditions := [], action := .update addFirst },
                      { name := "second", preconditions := [], action := .update addSecond }],
                    settings := { itemsPath := some "$.items" } })] }
  startingFlow := "main"
  context := .object [("customer", .object [("name", .string "Ada"), ("orders", .null)]),
    ("items", .list [.string "cart"]), ("total", .number (.int 0))]
  hash := none

/-- The session of `ordersDocument` after some turns of its pull. -/
def ordering : Nat → Session
  | 0 => initial ordersDocument {} true {}
  | turns + 1 => (ordering turns).turn.2

theorem ordering_met (turns : Nat) : (ordering turns).Met := by
  induction turns with
  | zero => exact ⟨ordersDocument, {}, true, _, start_initial (by decide +kernel) rfl, .refl⟩
  | succ turns ih => exact ih.evolves (.single (moment_turn _))

def orderLoop (cursor : Nat) (current : Option Child) (pass : Option ScopeId) : Flow where
  definition := "order"
  repetition := .forItems
  settings := { itemsPath := some "$.items" }
  cursor
  current
  pass
  items := [.string "cart"]
  passes := pass.toList.length

theorem ordering_working {turns : Nat} (hturns : turns ∈ [2, 4, 6, 7]) {flow : Flow}
    (htask : (ordering turns).taskAt? ⟨1⟩ = some
      { name := "order", scope := ⟨1⟩, owner := some ⟨0⟩, complete := false,
        activity := .flow flow }) :
    ∃ task, (ordering turns).Working ⟨1⟩ ⟨1⟩ task flow := by
  have hruns : ∀ turns ∈ [2, 4, 6, 7], (ordering turns).redirectedTo = none ∧
      (ordering turns).active.head? = some ⟨1⟩ ∧ ((ordering turns).scope ⟨1⟩).flow = some ⟨1⟩ := by
    decide +kernel
  obtain ⟨hcalm, hhead, hbound⟩ := hruns turns hturns
  exact ⟨_, hcalm, hhead, hbound, htask, rfl, rfl⟩

theorem ordering_begins : BeginsPass (ordering 2) (ordering 3) ⟨1⟩ ⟨2⟩ := by
  have hat : (ordering 2).AtStep ⟨1⟩ ⟨1⟩ (orderLoop 0 none none) .nextPass :=
    ⟨ordering_working (by decide) (by decide +kernel), rfl, _, rfl, by decide +kernel⟩
  have hturn : (ordering 2).turn =
      (.ok .again, (ordering 2).openPass ⟨1⟩ (orderLoop 0 none none)) := by
    rw [hat.turn_of_nextPass rfl, isPassDue_forItems rfl]
    rfl
  have hafter := congrArg Prod.snd hturn
  exact ⟨⟨⟨1⟩, _, hat, hafter⟩, hturn.trans (congrArg _ hafter.symm), by decide +kernel⟩

theorem ordering_gathers :
    Gathers (ordering 3) ⟨1⟩ ⟨2⟩ [firstOrder, secondOrder] (ordering 7) := by
  have hfirst : Takes (ordering 4) (ordering 5) ⟨1⟩ ⟨2⟩ firstOrder := by
    have hat : (ordering 4).AtChild ⟨1⟩ ⟨1⟩ (orderLoop 1 (some ⟨⟨2⟩, ⟨3⟩, 0, false⟩) (some ⟨2⟩))
        ⟨⟨2⟩, ⟨3⟩, 0, false⟩
        { name := "first", scope := ⟨3⟩, owner := some ⟨1⟩, complete := false,
          activity := .update addFirst } :=
      ⟨ordering_working (by decide) (by decide +kernel), rfl, by decide +kernel⟩
    have hpatch : Instruction.chainedPatch addFirst ((ordering 4).scope ⟨3⟩).state =
        .ok firstOrder := by
      decide +kernel
    have hleft : ((ordering 4).scope ⟨3⟩).result.merge firstOrder = firstOrder := by
      decide +kernel
    exact hleft ▸ hat.takes_patch (ordering_met 4).orderly.wired rfl rfl rfl rfl hpatch
  have hsecond : Takes (ordering 6) (ordering 7) ⟨1⟩ ⟨2⟩ secondOrder := by
    have hat : (ordering 6).AtChild ⟨1⟩ ⟨1⟩ (orderLoop 2 (some ⟨⟨3⟩, ⟨4⟩, 1, false⟩) (some ⟨2⟩))
        ⟨⟨3⟩, ⟨4⟩, 1, false⟩
        { name := "second", scope := ⟨4⟩, owner := some ⟨1⟩, complete := false,
          activity := .update addSecond } :=
      ⟨ordering_working (by decide) (by decide +kernel), rfl, by decide +kernel⟩
    have hpatch : Instruction.chainedPatch addSecond ((ordering 6).scope ⟨4⟩).state =
        .ok secondOrder := by
      decide +kernel
    have hleft : ((ordering 6).scope ⟨4⟩).result.merge secondOrder = secondOrder := by
      decide +kernel
    exact hleft ▸ hat.takes_patch (ordering_met 6).orderly.wired rfl rfl rfl rfl hpatch
  have hopened : Gathers (ordering 3) ⟨1⟩ ⟨2⟩ [] (ordering 4) :=
    Gathers.begun.still (moment_turn _) (by decide +kernel)
  have hbetween : Gathers (ordering 3) ⟨1⟩ ⟨2⟩ [firstOrder] (ordering 6) :=
    (hopened.took hfirst).still (moment_turn _) (by decide +kernel)
  exact hbetween.took hsecond

theorem ordering_ends : EndsPass (ordering 7) (ordering 8) ⟨1⟩ (orderLoop 2 none (some ⟨2⟩)) ⟨2⟩
    (firstOrder.merge secondOrder) := by
  have hat : (ordering 7).AtStep ⟨1⟩ ⟨1⟩ (orderLoop 2 none (some ⟨2⟩)) .foldPass :=
    ⟨ordering_working (by decide) (by decide +kernel), rfl, _, rfl, by decide +kernel⟩
  have hsnapshot : (orderLoop 2 none (some ⟨2⟩)).snapshotOf ((ordering 7).scope ⟨2⟩).state
      ((ordering 7).scope ⟨2⟩).result = .ok (firstOrder.merge secondOrder) := by
    decide +kernel
  have hturn := hat.turn_of_foldPass rfl hsnapshot
  have hafter := congrArg Prod.snd hturn
  exact ⟨⟨⟨1⟩, hat⟩, rfl, hsnapshot, hafter, hturn.trans (congrArg _ hafter.symm)⟩

/-- Neither order leaves anything but an object where the loop has one.  So the two can be merged at
once, and the loop comes to the state that it would have from taking the one and then the other. -/
theorem ordering_accumulated :
    (ordersDocument.context.merge firstOrder).merge secondOrder =
        ordersDocument.context.merge (firstOrder.merge secondOrder) ∧
      (ordering 8).loopState ⟨1⟩ =
        (ordersDocument.context.merge firstOrder).merge secondOrder := by
  have hcontext : ordersDocument.context.Canonical := by decide +kernel
  have hfirst : firstOrder.Canonical := by decide +kernel
  have hsecond : secondOrder.Canonical := by decide +kernel
  have hempty : ¬ Value.empty.Interrupts ordersDocument.context firstOrder := by
    intro hinterrupts
    obtain ⟨key, first, between, last, -, hbetween, -⟩ := hinterrupts.below rfl
    cases hbetween
  -- Both have the customer as an object, and its orders only the children have.
  have hnone : ¬ firstOrder.Interrupts ordersDocument.context secondOrder := by
    intro hinterrupts
    obtain ⟨key, first, between, last, hbase, hpatch, hwritten, hbelow⟩ := hinterrupts.below rfl
    obtain ⟨rfl, rfl⟩ : key = "customer" ∧ last = .object [("orders",
        .object [("second", .bool false)])] := by
      simpa [secondOrder] using Keyed.mem_of_get? hwritten
    have hcustomer : ordersDocument.context.field? "customer" =
        some (.object [("name", .string "Ada"), ("orders", .null)]) := by
      decide
    have horders : firstOrder.field? "customer" =
        some (.object [("orders", .object [("first", .bool true)])]) := by
      decide
    cases hcustomer.symm.trans hbase
    cases horders.symm.trans hpatch
    obtain ⟨key, first, between, last, hbase, -, hwritten, hbelow⟩ := hbelow.below rfl
    obtain ⟨rfl, -⟩ : key = "orders" ∧ last = .object [("second", .bool false)] := by
      simpa using Keyed.mem_of_get? hwritten
    cases hbase
    cases hbelow.isObject_base
  refine ⟨accumulated_eq_one_by_one.1 _ _ _ hcontext hfirst hsecond hnone, ?_⟩
  have hstate : (ordering 2).loopState ⟨1⟩ = ordersDocument.context := by decide +kernel
  have hended := ((accumulated_eq_one_by_one.2 _ _ _ _ (ordering_met 2) ordering_begins).2 _ _ _ _ _
    ordering_gathers ordering_ends).2
  rw [hstate] at hended
  refine hended rfl hcontext (by simp [hfirst, hsecond]) ?_
  intro before left after hsplit
  rcases before with _ | ⟨result, _ | ⟨result', before⟩⟩
  · cases hsplit
    exact hempty
  · cases hsplit
    have hgathered : Value.empty.merge firstOrder = firstOrder :=
      Value.empty_merge_of_sorted hfirst.sorted
    exact hgathered ▸ hnone
  · simp at hsplit

end Session

end Workflow
