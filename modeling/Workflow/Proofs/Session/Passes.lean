import Workflow.Proofs.Interpreter.Flows
import Workflow.Proofs.Session.Isolation

/-!
# The account of a loop

A loop counts the passes that it begins, keeps what each ended pass has left, and knows whether a
pass is open, whether a break has stopped it, and whether it has made its last pass.
`Session.Booked` lists what one moment can do to this account: each change of it is one line of the
list, and anything else that happens to a flow leaves it as it is.

From this list the account adds up at every moment, `Flow.Tallied`: the passes begun are those ended
and the open one, and they stay within the limit and the items.  A record of the history adds up in
the same way, so that going back keeps it so, `Session.Tallied`.
-/

namespace Workflow

/-- The account of a flow as a loop: all of it but its place among its tasks. -/
def Flow.ledger (flow : Flow) : Flow :=
  { flow with cursor := 0, current := none }

theorem Flow.of_ledger {flow other : Flow} (h : flow.ledger = other.ledger) :
    flow.skeleton = other.skeleton ∧ flow.pass = other.pass ∧ flow.broke = other.broke ∧
      flow.passes = other.passes ∧ flow.snapshots = other.snapshots ∧
        flow.finished = other.finished := by
  obtain ⟨⟩ := flow
  obtain ⟨⟩ := other
  simp only [ledger, Flow.mk.injEq] at h
  simp [skeleton, h]

/-- Only a loop with a pass open ends one. -/
theorem Flow.of_foldPass {flow : Flow} {tasks : List TaskDecl}
    (hnext : flow.nextStep tasks = .foldPass) :
    flow.isLoop = true ∧ ∃ pass, flow.pass = some pass := by
  unfold nextStep at hnext
  cases hloop : flow.isLoop <;> cases hpass : flow.pass <;> cases hbroke : flow.broke <;>
    cases hdecl : tasks[flow.cursor]? <;> simp_all

namespace Session

variable {s s' : Session} {id : TaskId} {scope : ScopeId} {flow flow' : Flow}

/-- The loop is not to make another pass: it is finished, or has just been told so. -/
def Over (s : Session) (id : TaskId) (flow : Flow) : Prop :=
  flow.finished = true ∨ s.isPassDue id flow = .ok false

/-- What a loop without an open pass does in a turn. -/
inductive Advanced (s : Session) (id : TaskId) (flow : Flow) : Except Error Turn → Session → Prop
  | unjudged {error : Error} (hfinished : flow.finished = false)
      (hdue : s.isPassDue id flow = .error error) : Advanced s id flow (.error error) s
  | exceeded (hfinished : flow.finished = false) (hdue : s.isPassDue id flow = .ok true)
      (hlimit : s.settings.maxLoopPasses ≤ flow.passes) :
      Advanced s id flow (.error (.tooManyPasses flow.definition s.settings.maxLoopPasses)) s
  | begun (hfinished : flow.finished = false) (hdue : s.isPassDue id flow = .ok true)
      (hlimit : flow.passes < s.settings.maxLoopPasses) :
      Advanced s id flow (.ok .again) (s.openPass id flow)
  | unpublished {mark : Bool} {error : Error} (hover : s.Over id flow)
      (hmark : flow.finished = true ∨ mark = true)
      (hresult : flow.publication (s.scope (s.scopeOf id)).state = .error error) :
      Advanced s id flow (.error error) (s.concluded id mark)
  | published {mark : Bool} {value : Value} (hover : s.Over id flow)
      (hmark : flow.finished = true ∨ mark = true)
      (hresult : flow.publication (s.scope (s.scopeOf id)).state = .ok value) :
      Advanced s id flow (.ok .again) (s.published id mark value)

theorem AtStep.advanced_of_publish {result : Except Error Turn} {mark : Bool}
    (hat : s.AtStep scope id flow .nextPass) (hover : s.Over id flow)
    (hmark : flow.finished = true ∨ mark = true)
    (hpublish : (s.concluded id mark).publish id = (result, s')) :
    Advanced s id flow result s' := by
  obtain ⟨task, hwork⟩ := hat.working
  rw [publish_concluded hwork.flowAt?] at hpublish
  cases hresult : flow.publication (s.scope (s.scopeOf id)).state with
  | error error =>
      rw [hresult] at hpublish
      cases hpublish
      exact .unpublished hover hmark hresult
  | ok value =>
      rw [hresult] at hpublish
      cases hpublish
      exact .published hover hmark hresult

theorem AtStep.advanced {result : Except Error Turn} (hat : s.AtStep scope id flow .nextPass)
    (hturn : s.turn = (result, s')) : Advanced s id flow result s' := by
  cases hfinished : flow.finished with
  | true =>
      rw [hat.turn_of_finished hfinished] at hturn
      exact hat.advanced_of_publish (.inl hfinished) (.inl hfinished) hturn
  | false =>
      rw [hat.turn_of_nextPass hfinished] at hturn
      cases hdue : s.isPassDue id flow with
      | error error =>
          rw [hdue] at hturn
          cases hturn
          exact .unjudged hfinished hdue
      | ok due =>
          rw [hdue] at hturn
          cases due with
          | false => exact hat.advanced_of_publish (.inr hdue) (.inr rfl) hturn
          | true =>
              dsimp only at hturn
              split_ifs at hturn with hlimit
              · cases hturn
                exact .exceeded hfinished hdue hlimit
              · cases hturn
                exact .begun hfinished hdue (by omega)

/-! ## What happens to an account -/

/-- The flow ends its pass, and keeps what the pass leaves. -/
structure EndsPass (s s' : Session) (id : TaskId) (flow : Flow) (pass : ScopeId)
    (snapshot : Value) : Prop where
  step : ∃ scope, s.AtStep scope id flow .foldPass
  within : flow.pass = some pass
  left : flow.snapshotOf (s.scope pass).state (s.scope pass).result = .ok snapshot
  after : s' = s.endPass id pass snapshot
  turn : s.turn = (.ok .again, s')

/-- A break runs as a task of the flow. -/
structure Breaks (s s' : Session) (id : TaskId) (flow : Flow) : Prop where
  child : ∃ scope child inner, s.AtChild scope id flow child inner ∧
    inner.activity = .event "break" ∧ inner.complete = false
  turn : s.turn = (.ok .again, s')

/-- What one moment makes of a flow. -/
inductive Booked (s s' : Session) (id : TaskId) (flow : Flow) : Flow → Prop
  | moved {flow' : Flow} (hledger : flow'.ledger = flow.ledger)
      (hopens : flow'.current.isSome = true → flow.current.isSome = true ∨
        flow.broke = false ∧ (flow.isLoop = true → flow.pass.isSome = true)) :
      Booked s s' id flow flow'
  | broken (hbreaks : Breaks s s' id flow) :
      Booked s s' id flow { flow with broke := true, current := none }
  | begun {scope : ScopeId} (hat : s.AtStep scope id flow .nextPass)
      (hfinished : flow.finished = false) (hdue : s.isPassDue id flow = .ok true)
      (hlimit : flow.passes < s.settings.maxLoopPasses) :
      Booked s s' id flow { flow with
        pass := some s.nextScope, cursor := 0, broke := false, passes := flow.passes + 1 }
  | ended {pass : ScopeId} {snapshot : Value} (hends : EndsPass s s' id flow pass snapshot) :
      Booked s s' id flow (flow.foldPass snapshot)
  | concluded {scope : ScopeId} (hat : s.AtStep scope id flow .nextPass) (hover : s.Over id flow) :
      Booked s s' id flow { flow with finished := true }
  | returned {entry : Visit} (hentry : s.history.head? = some entry) (hflow : entry.flow = id) :
      Booked s s' id flow (flow.returnTo entry.mark (entry.pass.map fun _ => s.nextScope))

theorem Booked.same (s s' : Session) (id : TaskId) (flow : Flow) : Booked s s' id flow flow :=
  .moved rfl .inl

theorem Flow.concluded_of_mark {mark : Bool} (hmark : flow.finished = true ∨ mark = true) :
    flow.concluded mark = { flow with finished := true } := by
  rcases hmark with hfinished | rfl
  · cases mark
    · rw [← hfinished]
      rfl
    · rfl
  · rfl

theorem AtStep.booked_nextPass {result : Except Error Turn}
    (hat : s.AtStep scope id flow .nextPass) (hturn : s.turn = (result, s'))
    (hflow' : s'.flowAt? id = some flow') : Booked s s' id flow flow' := by
  obtain ⟨task, hwork⟩ := hat.working
  have hflow := hwork.flowAt?
  cases hat.advanced hturn with
  | unjudged | exceeded =>
      rw [hflow] at hflow'
      cases hflow'
      exact .same _ _ _ _
  | begun hfinished hdue hlimit =>
      rw [openPass, flowAt?_modifyFlow_self, flowAt?_openScope, hflow] at hflow'
      cases hflow'
      exact .begun hat hfinished hdue hlimit
  | unpublished hover hmark =>
      rw [flowAt?_concluded, hflow, Option.map_some, Flow.concluded_of_mark hmark] at hflow'
      cases hflow'
      exact .concluded hat hover
  | published hover hmark =>
      rw [flowAt?_published, hflow, Option.map_some, Flow.concluded_of_mark hmark] at hflow'
      cases hflow'
      exact .concluded hat hover

theorem AtStep.booked_openTask {result : Except Error Turn} {decl : TaskDecl}
    (hat : s.AtStep scope id flow (.openTask decl)) (hturn : s.turn = (result, s'))
    (hflow' : s'.flowAt? id = some flow') : Booked s s' id flow flow' := by
  obtain ⟨task, hwork⟩ := hat.working
  obtain ⟨declared, -, hnext⟩ := hat.next
  obtain ⟨hcalm, hwithin, -⟩ := Flow.nextStep_eq_openTask_iff.mp hnext
  have hskipped : (s.passOver id flow).flowAt? id =
      some { flow with cursor := flow.cursor + 1 } := by
    rw [flowAt?_passOver, if_pos rfl, hwork.flowAt?]
    rfl
  have hmoved : Booked s s' id flow { flow with cursor := flow.cursor + 1 } := .moved rfl .inl
  rw [hat.turn_eq, takeStep, openDeclared_eq] at hturn
  split at hturn
  · cases hturn
    rw [hskipped] at hflow'
    cases hflow'
    exact hmoved
  · cases hturn
    rw [hskipped] at hflow'
    cases hflow'
    exact hmoved
  · split at hturn
    · cases hturn
      rw [hskipped] at hflow'
      cases hflow'
      exact hmoved
    · cases hturn
      rw [flowAt?_openChild hat] at hflow'
      cases hflow'
      exact .moved rfl fun _ => .inr ⟨hcalm, hwithin⟩

theorem AtStep.booked {result : Except Error Turn} {step : FlowStep}
    (hat : s.AtStep scope id flow step) (hturn : s.turn = (result, s'))
    (hflow' : s'.flowAt? id = some flow') : Booked s s' id flow flow' := by
  have ⟨task, hwork⟩ := hat.working
  have hflow := hwork.flowAt?
  have hkept : s'.flowAt? id = s.flowAt? id → Booked s s' id flow flow' := by
    intro hsame
    rw [hsame, hflow] at hflow'
    cases hflow'
    exact .same _ _ _ _
  cases step with
  | openTask decl => exact hat.booked_openTask hturn hflow'
  | nextPass => exact hat.booked_nextPass hturn hflow'
  | foldPass =>
      obtain ⟨declared, -, hnext⟩ := hat.next
      obtain ⟨-, pass, hpass⟩ := Flow.of_foldPass hnext
      cases hsnapshot : flow.snapshotOf (s.scope pass).state (s.scope pass).result with
      | error error =>
          rw [hat.turn_of_snapshot_error hpass hsnapshot] at hturn
          cases hturn
          exact hkept rfl
      | ok snapshot =>
          have hends := hat.turn_of_foldPass hpass hsnapshot
          have hsame := hturn.symm.trans hends
          cases hsame
          rw [endPass, flowAt?_modifyFlow_self, flowAt?_closeScope, flowAt?_modifyScope, hflow]
            at hflow'
          cases hflow'
          exact .ended ⟨⟨scope, hat⟩, hpass, hsnapshot, rfl, hends⟩
  | publish =>
      have hpublish : s.publish id = _ := publish_concluded hflow false
      rw [hat.turn_eq, takeStep, hpublish] at hturn
      split at hturn
      · cases hturn
        exact hkept rfl
      · cases hturn
        exact hkept (by rw [flowAt?_published, hflow]; rfl)

/-- What a leaf does when it runs leaves the flow around it alone, unless it is a break. -/
theorem flowAt?_effect {task : Task} {ran : Session} (heffect : s.effect task = .ok ran)
    (howner : task.owner = some id) :
    ran.flowAt? id = s.flowAt? id ∨ task.activity = .event "break" ∧
      ran.flowAt? id = (s.flowAt? id).map fun flow => { flow with broke := true } := by
  unfold effect at heffect
  split at heffect
  · obtain ⟨patch, -, rfl⟩ := exists_of_map_eq_ok heffect
    exact .inl rfl
  · cases heffect
    exact .inl rfl
  · next action hevent =>
      split_ifs at heffect with hbreak
      · cases heffect
        refine .inr ⟨by rw [hevent, hbreak], ?_⟩
        rw [howner]
        exact flowAt?_modifyFlow_self s id _
      · cases heffect
        exact .inl rfl
  · cases heffect
    split_ifs <;> exact .inl rfl
  · cases heffect
    exact .inl rfl
  · cases heffect
    exact .inl rfl

theorem AtChild.booked {result : Except Error Turn} {child : Child} {inner : Task}
    (hat : s.AtChild scope id flow child inner) (hturn : s.turn = (result, s'))
    (hwired : s.Wired) (hflow' : s'.flowAt? id = some flow') : Booked s s' id flow flow' := by
  obtain ⟨task, hwork⟩ := hat.working
  have hflow := hwork.flowAt?
  obtain ⟨-, howner, -⟩ := hat.places hwired
  have hcurrent : flow.current.isSome = true := by rw [hat.current]; rfl
  have hopen := hturn
  rw [hat.turn_eq] at hopen
  split_ifs at hopen
  · cases hopen
    rw [markInterrupted_eq, flowAt?_modifyFlow_self, hflow] at hflow'
    cases hflow'
    exact .moved rfl fun _ => .inl hcurrent
  · cases hopen
    rw [hflow] at hflow'
    cases hflow'
    exact .same _ _ _ _
  · cases hopen
    rw [show ({ s with active := s.active.push child.scope } : Session).flowAt? id = s.flowAt? id
      from rfl, hflow] at hflow'
    cases hflow'
    exact .same _ _ _ _
  · rw [settleChild, runChild] at hopen
    split_ifs at hopen with hcomplete
    · cases hopen
      rw [flowAt?_foldChild hflow] at hflow'
      cases hflow'
      exact .moved rfl fun _ => .inl hcurrent
    · cases heffect : s.effect inner with
      | error error =>
          rw [heffect] at hopen
          cases hopen
          rw [flowAt?_modifyFlow_self, flowAt?_closeScope, hflow] at hflow'
          cases hflow'
          exact .moved rfl fun _ => .inl hcurrent
      | ok ran =>
          rw [heffect] at hopen
          cases hopen
          rcases flowAt?_effect heffect howner with hsame | ⟨hbreak, hbroken⟩
          · have hran : (ran.complete child.task).flowAt? id = some flow := by
              rw [flowAt?_complete, hsame, hflow]
            rw [flowAt?_foldChild hran] at hflow'
            cases hflow'
            exact .moved rfl fun _ => .inl hcurrent
          · have hran : (ran.complete child.task).flowAt? id =
                some { flow with broke := true } := by
              rw [flowAt?_complete, hbroken, hflow]
              rfl
            rw [flowAt?_foldChild hran] at hflow'
            cases hflow'
            exact .broken ⟨⟨scope, child, inner, hat, hbreak, by simpa using hcomplete⟩, hturn⟩

theorem booked_turn {result : Except Error Turn} (hturn : s.turn = (result, s'))
    (hsound : s.Sound) (hflow : s.flowAt? id = some flow) (hflow' : s'.flowAt? id = some flow') :
    Booked s s' id flow flow' := by
  have hkept : s'.flowAt? id = s.flowAt? id → Booked s s' id flow flow' := by
    intro hsame
    rw [hsame, hflow] at hflow'
    cases hflow'
    exact .same _ _ _ _
  obtain ⟨task, htask, hruns⟩ := flowAt?_eq_some_iff.mp hflow
  by_cases hidle : s.redirectedTo.isSome ∨ s.active.head? = none
  · rw [turn_of_not_running hidle] at hturn
    cases hturn
    exact hkept rfl
  · rw [not_or, Option.not_isSome_iff_eq_none] at hidle
    obtain ⟨hrunning, hactive⟩ := hidle
    obtain ⟨scope, hhead⟩ := Option.ne_none_iff_exists'.mp hactive
    obtain ⟨innermost, outer, -, -, hbound⟩ := hsound.head hhead
    by_cases hself : innermost = id
    · subst hself
      by_cases hcomplete : task.complete = true
      · exact hkept ((flowAt?_turn_of_isComplete hturn hsound hflow ⟨task, htask, hcomplete⟩).trans
          hflow.symm)
      · have hwork : s.Working scope innermost task flow :=
          ⟨hrunning, hhead, hbound, htask, by simpa using hcomplete, hruns⟩
        cases hcurrent : flow.current with
        | some child =>
            obtain ⟨inner, hinner, -⟩ := (hsound.wired.linked hflow).child hcurrent
            exact AtChild.booked ⟨⟨task, hwork⟩, hcurrent, hinner⟩ hturn hsound.wired hflow'
        | none =>
            cases hdeclared : Keyed.get? flow.definition s.repository.flows with
            | none =>
                have hstuck : s.turn = (.error (.noFlow flow.definition), s) := by
                  rw [hwork.turn_eq, hcurrent]
                  simp only [proceed, hdeclared]
                rw [hstuck] at hturn
                cases hturn
                exact hkept rfl
            | some declared =>
                exact AtStep.booked ⟨⟨task, hwork⟩, hcurrent, declared, hdeclared, rfl⟩ hturn hflow'
    · have hold : id ≠ s.nextTask := TaskId.ne_of_lt (taskAt?_lt htask)
      exact hkept ((turned hturn).flowAt?_of_ne hsound.wired hhead hbound hself hold)

theorem booked_act {acted : TaskId} (hact : Act acted s s') (hsound : s.Sound)
    (hflow : s.flowAt? id = some flow) (hflow' : s'.flowAt? id = some flow') :
    Booked s s' id flow flow' := by
  rcases hact.quiet_or_returned with hquiet | ⟨asking, entry, target, -, hentry, htarget, rfl⟩
  · rw [hquiet.flowAt? hflow] at hflow'
    cases hflow'
    exact .same _ _ _ _
  · have hback := hsound.wentBack hentry htarget
    obtain ⟨⟨before, hbefore, hafter⟩, hothers⟩ := hback.returned
    by_cases hself : entry.flow = id
    · subst hself
      rw [hflow] at hbefore
      cases hbefore
      rw [hflow'] at hafter
      cases hafter
      exact .returned hentry rfl
    · rw [flowAt?, hothers id (Ne.symm hself), ← flowAt?, hflow] at hflow'
      cases hflow'
      exact .same _ _ _ _

/-- A flow has just been opened, as it is built from its declaration. -/
def BuildsFlow (s s' : Session) (id : TaskId) (flow : Flow) : Prop :=
  ∃ scope owner around decl, s.AtStep scope owner around (.openTask decl) ∧ id = s.nextTask ∧
    s.repository.Builds decl (s.ambient owner around) flow ∧
    s' = s.openChild owner around decl (.flow flow)

/-- A flow that is there after a moment has just been opened, or what has become of it is one line
of the list. -/
theorem Moment.booked (hmoment : Moment s s') (hsound : s.Sound)
    (hflow' : s'.flowAt? id = some flow') :
    (∃ flow, s.flowAt? id = some flow ∧ Booked s s' id flow flow') ∨
      BuildsFlow s s' id flow' := by
  obtain ⟨task', htask', hruns'⟩ := flowAt?_eq_some_iff.mp hflow'
  have hlt := taskAt?_lt htask'
  have hold : id.index < s.tasks.size →
      (∀ flow, s.flowAt? id = some flow → Booked s s' id flow flow') →
        ∃ flow, s.flowAt? id = some flow ∧ Booked s s' id flow flow' := by
    intro hlt hbooked
    obtain ⟨flow, hflow, -⟩ := hmoment.grows.flowAt?_before hflow' hlt
    exact ⟨flow, hflow, hbooked flow hflow⟩
  rcases hmoment.cases_alike with ⟨result, hturn⟩ | ⟨acted, -, hact⟩ | halike
  · rcases (turned hturn).tasks_size with hsize |
      ⟨scope, owner, around, decl, activity, hat, hactivity, -, rfl⟩
    · exact .inl (hold (hsize ▸ hlt) fun flow hflow => booked_turn hturn hsound hflow hflow')
    · rw [(openChild_others s owner around decl activity).2.2.2.2.2.2.2.1] at hlt
      by_cases hnew : id = s.nextTask
      · obtain ⟨task, hwork⟩ := hat.working
        rw [taskAt?_openChild s (taskAt?_lt hwork.here), if_pos hnew] at htask'
        cases htask'
        have hsort : activity = .flow flow' := Task.flow?_eq_some_iff.mp hruns'
        rw [hsort] at hactivity ⊢
        exact .inr ⟨scope, owner, around, decl, hat, hnew,
          Repository.builds_of_activity hactivity, rfl⟩
      · have hne : id.index ≠ s.tasks.size := fun h => hnew (TaskId.index_inj.mp h)
        exact .inl (hold (by omega) fun flow hflow => booked_turn hturn hsound hflow hflow')
  · exact .inl (hold (hact.tasks_size ▸ hlt) fun flow hflow => booked_act hact hsound hflow hflow')
  · rw [flowAt?, taskAt?, halike.tasks] at hflow'
    exact .inl ⟨flow', hflow', .same _ _ _ _⟩

end Session

/-! ## Accounts that add up -/

/-- The account adds up: each pass that was begun has ended, or is the open one; there are no more
of them than the limit and the items allow; and a loop that is finished has nothing open. -/
structure Flow.Tallied (limit : Nat) (flow : Flow) : Prop where
  passes : flow.passes = flow.snapshots.length + flow.pass.toList.length
  limited : flow.passes ≤ limit
  itemized : flow.repetition = .forItems → flow.passes ≤ flow.items.length
  finished : flow.finished = true → flow.isLoop = true ∧ flow.pass = none ∧ flow.current = none
  calm : flow.current.isSome = true → flow.broke = false

/-- The account of a record adds up, and counts no more snapshots than the flow still has. -/
structure Visit.Tallied (limit : Nat) (visit : Visit) (flow : Flow) : Prop where
  passes : visit.mark.passes = visit.mark.snapshots + visit.pass.toList.length
  limited : visit.mark.passes ≤ limit
  itemized : flow.repetition = .forItems → visit.mark.passes ≤ flow.items.length
  kept : visit.mark.snapshots ≤ flow.snapshots.length
  running : visit.mark.finished = false
  calm : visit.mark.broke = false

namespace Session

/-- The accounts of all records add up, and of two records of one flow the older one counts no more
snapshots. -/
structure RecordsTallied (s : Session) : Prop where
  visits : ∀ visit ∈ s.history.toList, ∃ flow, s.flowAt? visit.flow = some flow ∧
    visit.Tallied s.settings.maxLoopPasses flow
  ordered : s.history.toList.Pairwise fun newer older =>
    older.flow = newer.flow → older.mark.snapshots ≤ newer.mark.snapshots

/-- The accounts of all flows and of all records add up. -/
structure Tallied (s : Session) : Prop where
  flows : ∀ ⦃id flow⦄, s.flowAt? id = some flow → flow.Tallied s.settings.maxLoopPasses
  records : s.RecordsTallied

variable {s s' : Session} {id : TaskId} {flow flow' : Flow}

theorem isPassDue_forItems (hitems : flow.repetition = .forItems) :
    s.isPassDue id flow = .ok (decide (flow.passes < flow.items.length)) := by
  rw [isPassDue, hitems]
  rfl

/-- What a moment makes of a flow whose account adds up adds up. -/
theorem Booked.tallied (hbooked : Booked s s' id flow flow') (hflow : s.flowAt? id = some flow)
    (htallied : s.Tallied) (hvalid : s.history.Valid) :
    flow'.Tallied s.settings.maxLoopPasses := by
  have hbefore := htallied.flows hflow
  cases hbooked with
  | moved hledger hopens =>
      obtain ⟨hskeleton, hpass, hbroke, hpasses, hsnapshots, hfinished⟩ := Flow.of_ledger hledger
      obtain ⟨-, hrepetition, -, hitems⟩ := Flow.of_skeleton hskeleton
      refine ⟨?_, ?_, ?_, fun hdone => ?_, fun hopen => ?_⟩
      · rw [hpasses, hsnapshots, hpass]
        exact hbefore.passes
      · rw [hpasses]
        exact hbefore.limited
      · rw [hrepetition, hpasses, hitems]
        exact hbefore.itemized
      · rw [hfinished] at hdone
        obtain ⟨hloop, hnone, hcurrent⟩ := hbefore.finished hdone
        rw [Flow.isLoop_of_skeleton hskeleton, hpass]
        refine ⟨hloop, hnone, Option.not_isSome_iff_eq_none.mp fun hopen => ?_⟩
        rcases hopens hopen with hold | ⟨-, hwithin⟩
        · rw [hcurrent] at hold
          cases hold
        · have hsome := hwithin hloop
          rw [hnone] at hsome
          cases hsome
      · rw [hbroke]
        exact (hopens hopen).elim hbefore.calm And.left
  | broken hbreaks =>
      obtain ⟨scope, child, inner, hat, -⟩ := hbreaks.child
      refine ⟨hbefore.passes, hbefore.limited, hbefore.itemized, fun hdone => ?_, fun hopen => ?_⟩
      · have hcurrent := (hbefore.finished hdone).2.2
        rw [hat.current] at hcurrent
        cases hcurrent
      · cases hopen
  | begun hat hfinished hdue hlimit =>
      obtain ⟨declared, -, hnext⟩ := hat.next
      obtain ⟨-, hnone⟩ := Flow.of_nextPass hnext
      have hpasses := hbefore.passes
      rw [hnone] at hpasses
      refine ⟨by rw [hpasses]; rfl, hlimit, fun hitems => ?_, fun hdone => ?_, fun _ => rfl⟩
      · have hrepetition : flow.repetition = .forItems := hitems
        rw [isPassDue_forItems hrepetition] at hdue
        exact Nat.succ_le_of_lt (by simpa using hdue)
      · rw [hfinished] at hdone
        cases hdone
  | @ended pass snapshot hends =>
      obtain ⟨scope, hat⟩ := hends.step
      obtain ⟨declared, -, hnext⟩ := hat.next
      have hpasses := hbefore.passes
      rw [hends.within] at hpasses
      refine ⟨?_, hbefore.limited, hbefore.itemized, fun _ => ?_, fun _ => rfl⟩
      · rw [Flow.foldPass, hpasses]
        simp
      · exact ⟨(Flow.of_foldPass hnext).1, rfl, hat.current⟩
  | concluded hat hover =>
      obtain ⟨declared, -, hnext⟩ := hat.next
      obtain ⟨hloop, hnone⟩ := Flow.of_nextPass hnext
      exact ⟨hbefore.passes, hbefore.limited, hbefore.itemized,
        fun _ => ⟨hloop, hnone, hat.current⟩, hbefore.calm⟩
  | @returned entry hentry hself =>
      rw [Cursor.head?_eq hvalid] at hentry
      obtain ⟨found, hfound, hvisit⟩ := htallied.records.visits entry (List.mem_of_head? hentry)
      rw [hself, hflow] at hfound
      cases hfound
      refine ⟨?_, hvisit.limited, hvisit.itemized, fun hdone => ?_, fun hopen => ?_⟩
      · have hlength : (flow.snapshots.take entry.mark.snapshots).length = entry.mark.snapshots :=
          List.length_take_of_le hvisit.kept
        have hopen : (entry.pass.map fun _ => s.nextScope).toList.length =
            entry.pass.toList.length := by
          cases entry.pass <;> rfl
        rw [Flow.returnTo, hlength, hopen]
        exact hvisit.passes
      · rw [Flow.returnTo, hvisit.running] at hdone
        cases hdone
      · cases hopen

/-- A record adds up as long as its flow loses no snapshots that the record counts. -/
theorem RecordsTallied.visit_of_grows {visit : Visit} (hrecords : s.RecordsTallied)
    (hgrows : Grows s s') (hmem : visit ∈ s.history.toList)
    (hkept : ∀ flow flow', s.flowAt? visit.flow = some flow → s'.flowAt? visit.flow = some flow' →
      visit.mark.snapshots ≤ flow.snapshots.length →
        visit.mark.snapshots ≤ flow'.snapshots.length) :
    ∃ flow, s'.flowAt? visit.flow = some flow ∧
      visit.Tallied s'.settings.maxLoopPasses flow := by
  obtain ⟨flow, hflow, hvisit⟩ := hrecords.visits visit hmem
  obtain ⟨flow', hflow', hskeleton⟩ := hgrows.flowAt? hflow
  obtain ⟨-, hrepetition, -, hitems⟩ := Flow.of_skeleton hskeleton
  refine ⟨flow', hflow', hvisit.passes, hgrows.limit ▸ hvisit.limited, ?_,
    hkept flow flow' hflow hflow' hvisit.kept, hvisit.running, hvisit.calm⟩
  rw [hrepetition, hitems]
  exact hvisit.itemized

theorem RecordsTallied.of_adds (hrecords : s.RecordsTallied) (hgrows : Grows s s')
    (hhistory : s'.history = s.history) (hadds : AddsSnapshots s s') : s'.RecordsTallied where
  visits := by
    rw [hhistory]
    refine fun visit hmem => hrecords.visit_of_grows hgrows hmem
      fun flow flow' hflow hflow' hkept => ?_
    obtain ⟨found, hfound, hbegins⟩ := hadds visit.flow flow hflow
    rw [hflow'] at hfound
    cases hfound
    exact hkept.trans hbegins.length_le
  ordered := hhistory ▸ hrecords.ordered

/-- The record of a flow whose account adds up adds up. -/
theorem tallied_visitAt {limit : Nat} (htallied : flow.Tallied limit) {child : Child}
    (hcurrent : flow.current = some child) (s : Session) (owner : TaskId) (screen : String) :
    (s.visitAt owner flow child screen).Tallied limit flow where
  passes := by
    have hopen : (flow.pass.map fun pass =>
        ((s.scope pass).state, (s.scope pass).result)).toList.length =
          flow.pass.toList.length := by
      cases flow.pass <;> rfl
    exact htallied.passes.trans (congrArg (flow.snapshots.length + ·) hopen.symm)
  limited := htallied.limited
  itemized := htallied.itemized
  kept := Nat.le_refl _
  running := by
    cases hdone : flow.finished with
    | false => exact hdone
    | true =>
        have hnone := (htallied.finished hdone).2.2
        rw [hcurrent] at hnone
        cases hnone
  calm := htallied.calm (by rw [hcurrent]; rfl)

theorem Tallied.remember (htallied : s.Tallied) (hvalid : s.history.Valid) {entry : Visit}
    (hvisit : s.visitOf id = .ok (some (flow, entry))) :
    (s.remember flow entry).RecordsTallied := by
  have hpushed : (s.remember flow entry).history.toList = entry :: s.history.toList :=
    Cursor.toList_push hvalid entry
  obtain ⟨task, owner, child, -, -, hflow, hcurrent, -, rfl⟩ := visitOf_eq_some hvisit
  constructor
  · rw [hpushed]
    exact List.forall_mem_cons.mpr
      ⟨⟨flow, hflow, tallied_visitAt (htallied.flows hflow) hcurrent s owner task.name⟩,
        htallied.records.visits⟩
  · rw [hpushed]
    refine List.pairwise_cons.mpr ⟨fun older hmem hsame => ?_, htallied.records.ordered⟩
    obtain ⟨found, hfound, holder⟩ := htallied.records.visits older hmem
    have hself : older.flow = owner := hsame
    rw [hself, hflow] at hfound
    cases hfound
    exact holder.kept

theorem RecordsTallied.restore (hrecords : s.RecordsTallied) (hvalid : s.history.Valid)
    {entry : Visit} (hentry : s.history.head? = some entry) (target : ScopeId) :
    (s.restore target entry).RecordsTallied := by
  obtain ⟨-, -, -, -, hhistory, -⟩ := restore_others s target entry
  rw [Cursor.head?_eq hvalid] at hentry
  obtain ⟨rest, hlist⟩ := List.head?_eq_some_iff.mp hentry
  have hpopped : (s.restore target entry).history.toList = rest := by
    rw [hhistory, Cursor.toList_pop hvalid, hlist, List.tail_cons]
  have hordered := hrecords.ordered
  rw [hlist, List.pairwise_cons] at hordered
  refine ⟨?_, hpopped ▸ hordered.2⟩
  rw [hpopped]
  intro visit hmem
  refine hrecords.visit_of_grows (grows_restore s target entry)
    (hlist ▸ List.mem_cons_of_mem _ hmem) fun flow flow' hflow hflow' hkept => ?_
  rw [flowAt?_restore] at hflow'
  split_ifs at hflow' with hself
  · -- The newest record counts at least as many snapshots as the older ones of its flow.
    rw [hflow] at hflow'
    cases hflow'
    have hbelow := hordered.1 visit hmem hself.symm
    change visit.mark.snapshots ≤ (flow.snapshots.take entry.mark.snapshots).length
    rw [List.length_take]
    exact Nat.le_min.mpr ⟨hbelow, hkept⟩
  · rw [hflow] at hflow'
    cases hflow'
    exact hkept

theorem Act.recordsTallied {acted : TaskId} (hact : Act acted s s') (hvalid : s.history.Valid)
    (htallied : s.Tallied) : s'.RecordsTallied := by
  have hgrows := hact.grows
  have hquiet : Quiet acted s s' → s'.history = s.history → s'.RecordsTallied :=
    fun hquiet hhistory => htallied.records.of_adds hgrows hhistory hquiet.addsSnapshots
  cases hact with
  | screenSet _ htask hscreen =>
      exact hquiet (quiet_modifyTask htask (Task.takesInput_of_screen hscreen) _) rfl
  | resultMerged _ htask hinput | patched _ htask hinput =>
      exact hquiet (quiet_modifyScope htask hinput _) rfl
  | completed htask hinput => exact hquiet (quiet_modifyTask htask hinput _) rfl
  | recorded hvisit => exact htallied.remember hvalid hvisit
  | refused => exact hquiet (.of_same rfl rfl rfl rfl rfl) rfl
  | @returned _ _ target _ hentry _ =>
      have hback := htallied.records.restore hvalid hentry target
      exact ⟨hback.visits, hback.ordered⟩

theorem Moment.tallied (hmoment : Moment s s') (hsound : s.Sound) (htallied : s.Tallied) :
    s'.Tallied := by
  have hgrows := hmoment.grows
  refine ⟨fun id flow' hflow' => ?_, ?_⟩
  · rw [hgrows.limit]
    rcases hmoment.booked hsound hflow' with ⟨flow, hflow, hbooked⟩ |
      ⟨scope, owner, around, decl, -, -, ⟨repetition, inline, declared, -, -, hstart⟩, -⟩
    · exact hbooked.tallied hflow htallied hsound.history
    · rw [Flow.start_eq hstart]
      exact ⟨rfl, Nat.zero_le _, fun _ => Nat.zero_le _, nofun, nofun⟩
  · rcases hmoment.cases_alike with ⟨result, hturn⟩ | ⟨acted, -, hact⟩ | halike
    · have hturned := turned hturn
      exact htallied.records.of_adds hgrows hturned.cursors.1 hturned.addsSnapshots
    · exact hact.recordsTallied hsound.history htallied
    · refine htallied.records.of_adds hgrows halike.history fun id flow hflow => ?_
      rw [flowAt?, taskAt?, halike.tasks]
      exact ⟨flow, hflow, List.prefix_rfl⟩

theorem Evolves.tallied (hevolves : s.Evolves s') (horderly : s.Orderly) (htallied : s.Tallied) :
    s'.Tallied := by
  induction hevolves with
  | refl => exact htallied
  | tail hbefore hmoment ih => exact hmoment.tallied (Evolves.orderly hbefore horderly).sound ih

/-- A session starts with one flow, which has made no passes. -/
theorem initial_tallied (document : Document) (settings : SessionSettings) (ownsEvents : Bool)
    (flowSettings : FlowSettings) :
    (initial document settings ownsEvents flowSettings).Tallied := by
  refine ⟨fun id flow hflow => ?_, by simp [initial], by simp [initial]⟩
  obtain ⟨index⟩ := id
  cases index with
  | zero =>
      cases hflow
      refine ⟨rfl, Nat.zero_le _, fun hitems => ?_, fun hdone => ?_, fun hopen => ?_⟩
      · cases hitems
      · cases hdone
      · cases hopen
  | succ index => cases hflow

end Session

end Workflow
