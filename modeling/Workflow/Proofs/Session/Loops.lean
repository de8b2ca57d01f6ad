import Workflow.Proofs.Session.Failures
import Workflow.Proofs.Session.Passes

/-!
# What a loop has done

That the account of a loop adds up is said of one session.  What its figures stand for lies in the
moments before it, `Session.Along`: each snapshot was left by the pass that it is counted for, the
items were read when the loop was opened, a loop that has stopped early was stopped by a break in
its last pass, and one that is complete has published the list of its snapshots,
`Session.Chronicled`.
-/

namespace Workflow

/-- What a loop publishes: the list of its snapshots at its destination, and nothing without one. -/
def Flow.collected (flow : Flow) : Except Error Value :=
  match flow.settings.destination with
  | some path => (Value.list flow.snapshots).patchAt path
  | none => .ok .empty

theorem Flow.publication_of_isLoop {flow : Flow} (hloop : flow.isLoop = true) (state : Value) :
    flow.publication state = flow.collected :=
  if_pos hloop

namespace Session

/-- Between the two sessions there is a moment as described. -/
def Along (start s : Session) (P : Session → Session → Prop) : Prop :=
  ∃ r r', start.Evolves r ∧ Moment r r' ∧ r'.Evolves s ∧ P r r'

section

variable {start s s' : Session} {P : Session → Session → Prop}

theorem Along.later (halong : Along start s P) (hmoment : Moment s s') : Along start s' P := by
  obtain ⟨r, r', hbefore, hhere, hafter, hP⟩ := halong
  exact ⟨r, r', hbefore, hhere, hafter.tail hmoment, hP⟩

theorem Along.now (hbefore : start.Evolves s) (hmoment : Moment s s') (hP : P s s') :
    Along start s' P :=
  ⟨s, s', hbefore, hmoment, .refl, hP⟩

end

/-- A break has run in the pass that the flow has open in the given scope. -/
def BrokeIn (start s : Session) (id : TaskId) (pass : ScopeId) : Prop :=
  Along start s fun r r' => ∃ flow, Breaks r r' id flow ∧ flow.pass = some pass

/-- The last pass of the flow has ended after a break in it, and has left the flow's account. -/
def StoppedShort (start s : Session) (id : TaskId) (flow : Flow) : Prop :=
  Along start s fun r r' => ∃ before pass snapshot, EndsPass r r' id before pass snapshot ∧
    (before.foldPass snapshot).ledger = flow.ledger ∧ BrokeIn start r id pass

/-- What the account of a flow stands for. -/
structure Chronicled (start s : Session) (id : TaskId) (flow : Flow) : Prop where
  opened : flow.isLoop = true → Along start s fun r r' =>
    ∃ built, BuildsFlow r r' id built ∧ built.items = flow.items
  ordered : ∀ index snapshot, flow.snapshots[index]? = some snapshot → Along start s fun r r' =>
    ∃ before pass, EndsPass r r' id before pass snapshot ∧ before.passes = index + 1 ∧
      before.snapshots = flow.snapshots.take index
  broken : flow.broke = true → ∀ pass, flow.pass = some pass → BrokeIn start s id pass
  exhausted : flow.finished = true → flow.repetition = .forItems →
    flow.passes = flow.items.length ∨ StoppedShort start s id flow

section

variable {start s s' : Session} {id : TaskId} {flow flow' : Flow}

theorem Chronicled.later (hchronicled : Chronicled start s id flow) (hmoment : Moment s s') :
    Chronicled start s' id flow where
  opened := fun hloop => (hchronicled.opened hloop).later hmoment
  ordered := fun index snapshot hsnapshot =>
    (hchronicled.ordered index snapshot hsnapshot).later hmoment
  broken := fun hbroke pass hpass => (hchronicled.broken hbroke pass hpass).later hmoment
  exhausted := fun hfinished hitems => (hchronicled.exhausted hfinished hitems).imp_right
    fun hshort => hshort.later hmoment

/-- Only the account of a flow is chronicled. -/
theorem Chronicled.of_ledger (hchronicled : Chronicled start s id flow)
    (hledger : flow'.ledger = flow.ledger) : Chronicled start s id flow' := by
  obtain ⟨hskeleton, hpass, hbroke, hpasses, hsnapshots, hfinished⟩ := Flow.of_ledger hledger
  obtain ⟨-, hrepetition, -, hitems⟩ := Flow.of_skeleton hskeleton
  refine ⟨?_, ?_, ?_, ?_⟩
  · rw [Flow.isLoop_of_skeleton hskeleton, hitems]
    exact hchronicled.opened
  · rw [hsnapshots]
    exact hchronicled.ordered
  · rw [hbroke, hpass]
    exact hchronicled.broken
  · rw [hfinished, hrepetition, hpasses, hitems, StoppedShort, hledger]
    exact hchronicled.exhausted

/-- A pass that has ended has left the newest snapshot. -/
theorem Chronicled.foldPass {pass : ScopeId} {snapshot : Value}
    (hchronicled : Chronicled start s id flow) (hbefore : start.Evolves s) (hmoment : Moment s s')
    (hends : EndsPass s s' id flow pass snapshot) {limit : Nat} (htallied : flow.Tallied limit) :
    Chronicled start s' id (flow.foldPass snapshot) := by
  have hlater := hchronicled.later hmoment
  have hpasses := htallied.passes
  rw [hends.within] at hpasses
  refine ⟨hlater.opened, fun index found hfound => ?_, nofun, fun hdone hitems => .inr ?_⟩
  · have hsnapshots : (flow.foldPass snapshot).snapshots = flow.snapshots ++ [snapshot] := rfl
    rw [hsnapshots] at hfound ⊢
    by_cases hold : index < flow.snapshots.length
    · rw [List.getElem?_append_left hold] at hfound
      rw [List.take_append_of_le_length (Nat.le_of_lt hold)]
      exact hlater.ordered index found hfound
    · have hindex : index = flow.snapshots.length := by
        have hlt := (List.getElem?_eq_some_iff.mp hfound).1
        rw [List.length_append, List.length_singleton] at hlt
        omega
      subst hindex
      rw [List.getElem?_concat_length] at hfound
      cases hfound
      rw [List.take_left]
      exact .now hbefore hmoment ⟨flow, pass, hends, hpasses, rfl⟩
  · have hbroke : flow.broke = true := by
      cases hfinished : flow.finished with
      | true =>
          have hnone := (htallied.finished hfinished).2.1
          rw [hends.within] at hnone
          cases hnone
      | false =>
          rw [Flow.foldPass, hfinished] at hdone
          exact hdone
    exact .now hbefore hmoment
      ⟨flow, pass, snapshot, hends, rfl, hchronicled.broken hbroke pass hends.within⟩

/-- What one moment makes of a flow is chronicled. -/
theorem Booked.chronicled (hbooked : Booked s s' id flow flow') (hmoment : Moment s s')
    (hbefore : start.Evolves s) (hflow : s.flowAt? id = some flow) (htallied : s.Tallied)
    (hvalid : s.history.Valid) (hchronicled : Chronicled start s id flow) :
    Chronicled start s' id flow' := by
  have hlater := hchronicled.later hmoment
  have hsums := htallied.flows hflow
  cases hbooked with
  | moved hledger => exact hlater.of_ledger hledger
  | broken hbreaks =>
      obtain ⟨scope, child, inner, hat, -⟩ := hbreaks.child
      refine ⟨hlater.opened, hlater.ordered, fun _ pass hpass => ?_, fun hdone => ?_⟩
      · exact .now hbefore hmoment ⟨flow, hbreaks, hpass⟩
      · have hnone := (hsums.finished hdone).2.2
        rw [hat.current] at hnone
        cases hnone
  | begun hat hfinished =>
      refine ⟨hlater.opened, hlater.ordered, nofun, fun hdone => ?_⟩
      rw [hfinished] at hdone
      cases hdone
  | ended hends => exact hchronicled.foldPass hbefore hmoment hends hsums
  | concluded hat hover =>
      obtain ⟨declared, -, hnext⟩ := hat.next
      obtain ⟨-, hnone⟩ := Flow.of_nextPass hnext
      rcases hover with hfinished | hdue
      · exact hlater.of_ledger (congrArg (fun finished => { flow.ledger with finished })
          hfinished.symm)
      · refine ⟨hlater.opened, hlater.ordered, fun _ pass hpass => ?_, fun _ hitems => .inl ?_⟩
        · rw [hnone] at hpass
          cases hpass
        · have hrepetition : flow.repetition = .forItems := hitems
          rw [isPassDue_forItems hrepetition] at hdue
          exact Nat.le_antisymm (hsums.itemized hrepetition) (by simpa using hdue)
  | @returned entry hentry hself =>
      rw [Cursor.head?_eq hvalid] at hentry
      obtain ⟨found, hfound, hvisit⟩ := htallied.records.visits entry (List.mem_of_head? hentry)
      refine ⟨hlater.opened, fun index snapshot hsnapshot => ?_, fun hbroke => ?_, fun hdone => ?_⟩
      · have hkept : (flow.snapshots.take entry.mark.snapshots)[index]? = some snapshot := hsnapshot
        obtain ⟨hlt, -⟩ := List.getElem?_eq_some_iff.mp hkept
        rw [List.length_take] at hlt
        rw [List.getElem?_take_of_lt (by omega)] at hkept
        have hsame : (flow.snapshots.take entry.mark.snapshots).take index =
            flow.snapshots.take index := by
          rw [List.take_take, Nat.min_eq_left (by omega)]
        change Along start s' fun r r' => ∃ before pass, EndsPass r r' id before pass snapshot ∧
          before.passes = index + 1 ∧
          before.snapshots = (flow.snapshots.take entry.mark.snapshots).take index
        rw [hsame]
        exact hlater.ordered index snapshot hkept
      · rw [Flow.returnTo, hvisit.calm] at hbroke
        cases hbroke
      · rw [Flow.returnTo, hvisit.running] at hdone
        cases hdone

/-- A flow that has just been opened has no account yet. -/
theorem BuildsFlow.chronicled (hbuilds : BuildsFlow s s' id flow) (hmoment : Moment s s')
    (hbefore : start.Evolves s) : Chronicled start s' id flow := by
  have ⟨scope, owner, around, decl, _, _, hbuilt, _⟩ := hbuilds
  have ⟨repetition, inline, declared, _, _, hstart⟩ := hbuilt
  refine ⟨fun _ => .now hbefore hmoment ⟨flow, hbuilds, rfl⟩, ?_, ?_, ?_⟩
  all_goals
    rw [Flow.start_eq hstart]
    nofun

theorem Evolves.chronicled (hevolves : start.Evolves s) (hstart : start.Orderly)
    (htallied : start.Tallied)
    (hfirst : ∀ id flow, start.flowAt? id = some flow → Chronicled start start id flow) :
    ∀ id flow, s.flowAt? id = some flow → Chronicled start s id flow := by
  induction hevolves with
  | refl => exact hfirst
  | @tail r s hbefore hmoment ih =>
      intro id flow' hflow'
      have hsound := (Evolves.orderly hbefore hstart).sound
      have hsums := Evolves.tallied hbefore hstart htallied
      rcases hmoment.booked hsound hflow' with ⟨flow, hflow, hbooked⟩ | hbuilds
      · exact hbooked.chronicled hmoment hbefore hflow hsums hsound.history (ih id flow hflow)
      · exact hbuilds.chronicled hmoment hbefore

/-- The flow that a session starts with is no loop, and has no account. -/
theorem initial_chronicled (document : Document) (settings : SessionSettings) (ownsEvents : Bool)
    (flowSettings : FlowSettings) {id : TaskId} {flow : Flow}
    (hflow : (initial document settings ownsEvents flowSettings).flowAt? id = some flow) :
    Chronicled start s id flow := by
  obtain ⟨index⟩ := id
  cases index with
  | zero =>
      cases hflow
      exact ⟨nofun, nofun, nofun, nofun⟩
  | succ index => cases hflow

/-! ## Complete loops -/

/-- The loop publishes, and is complete: it has nothing open, and what was an empty result becomes
the list of its snapshots. -/
structure PublishesLoop (s s' : Session) (id : TaskId) (flow : Flow) : Prop where
  before : ∃ scope found, s.AtStep scope id found .nextPass ∧ found.snapshots = flow.snapshots ∧
    s.Over id found
  after : s'.flowAt? id = some flow ∧ flow.finished = true
  completes : ¬ s.IsComplete id ∧ s'.IsComplete id
  published : ∃ value, flow.collected = .ok value ∧ (s.scope (s.scopeOf id)).result = .empty ∧
    (s'.scope (s.scopeOf id)).result = Value.empty.merge value

/-- A loop that has become complete has published. -/
theorem Advanced.of_isComplete {result : Except Error Turn} {scope : ScopeId}
    (hadvanced : Advanced s id flow result s') (hat : s.AtStep scope id flow .nextPass)
    (hwired : s.Wired) (hwithheld : s.Withheld) (hdone : s'.IsComplete id) :
    PublishesLoop s s' id { flow with finished := true } := by
  obtain ⟨task, hwork⟩ := hat.working
  obtain ⟨declared, -, hnext⟩ := hat.next
  obtain ⟨hloop, -⟩ := Flow.of_nextPass hnext
  have hopen : ¬ s.IsComplete id := by
    rintro ⟨found, hfound, hcomplete⟩
    rw [hwork.here] at hfound
    cases hfound
    rw [hwork.incomplete] at hcomplete
    cases hcomplete
  cases hadvanced with
  | unjudged | exceeded => exact absurd hdone hopen
  | begun => exact absurd ((isComplete_modifyFlow (s.openScope _ _) _ _ id).mp hdone) hopen
  | unpublished => exact absurd ((isComplete_concluded s id _ id).mp hdone) hopen
  | @published mark value hover hmark hresult =>
      rw [Flow.publication_of_isLoop hloop] at hresult
      have hempty := hwithheld hwork.here (by rw [Task.isFlow, hwork.runs]; rfl) hwork.incomplete
      rw [← scopeOf_eq_of_taskAt? hwork.here] at hempty
      refine ⟨⟨scope, flow, hat, rfl, hover⟩, ⟨?_, rfl⟩, ⟨hopen, hdone⟩, value, hresult, hempty, ?_⟩
      · rw [flowAt?_published, hwork.flowAt?, Option.map_some, Flow.concluded_of_mark hmark]
      · rw [hwired.scope_published hwork.here, Scope.mergeResult, hempty]

/-- A loop is complete only if it has published with the account that it has. -/
theorem Moment.publishesLoop (hmoment : Moment s s') (horderly : s.Orderly)
    (hwithheld : s.Withheld) (hflow' : s'.flowAt? id = some flow') (hloop : flow'.isLoop = true)
    (hdone : s'.IsComplete id) :
    (s.flowAt? id = some flow' ∧ s.IsComplete id) ∨ PublishesLoop s s' id flow' := by
  have hsound := horderly.sound
  rcases hmoment.cases_alike with ⟨result, hturn⟩ | ⟨acted, hrest, hact⟩ | halike
  · have hturned := turned hturn
    rcases hturned.isComplete hsound.wired hdone with hcomplete | ⟨task, htask, hleaf⟩ |
      ⟨scope, flow, step, mark, value, hat, hstep, -, hpublished⟩
    · have ⟨task, htask, _⟩ := hcomplete
      obtain ⟨flow, hflow, -⟩ := hturned.grows.flowAt?_before hflow' (taskAt?_lt htask)
      have hsame := flowAt?_turn_of_isComplete hturn hsound hflow hcomplete
      rw [hflow'] at hsame
      cases hsame
      exact .inl ⟨hflow, hcomplete⟩
    · obtain ⟨flow, hflow, -⟩ := hturned.grows.flowAt?_before hflow' (taskAt?_lt htask)
      rw [flowAt?, htask, Option.bind_some] at hflow
      rw [Task.isFlow, hflow] at hleaf
      cases hleaf
    · obtain ⟨working, hwork⟩ := hat.working
      obtain ⟨declared, -, hnext⟩ := hat.next
      have hskeleton : flow'.skeleton = flow.skeleton := by
        rw [hpublished, flowAt?_published, hwork.flowAt?] at hflow'
        cases hflow'
        cases mark <;> rfl
      rcases hstep with rfl | rfl
      · have hnone := Flow.isLoop_of_publish hnext
        rw [← Flow.isLoop_of_skeleton hskeleton, hloop] at hnone
        cases hnone
      · have hpublishes := (hat.advanced hturn).of_isComplete hat hsound.wired hwithheld hdone
        have hsame := hpublishes.after.1
        rw [hflow'] at hsame
        cases hsame
        exact .inr hpublishes
  · exact .inl (hact.isComplete_flow hsound hrest hflow' hdone)
  · rw [flowAt?, taskAt?, halike.tasks] at hflow'
    obtain ⟨task, htask, hcomplete⟩ := hdone
    rw [taskAt?, halike.tasks] at htask
    exact .inl ⟨hflow', task, htask, hcomplete⟩

theorem Evolves.publishesLoop (hevolves : start.Evolves s) (hstart : start.Orderly)
    (hreserved : start.Reserved) (hfresh : ∀ id, ¬ start.IsComplete id) :
    ∀ id flow, s.flowAt? id = some flow → flow.isLoop = true → s.IsComplete id →
      Along start s fun r r' => PublishesLoop r r' id flow := by
  induction hevolves with
  | refl => exact fun id _ _ _ hdone => absurd hdone (hfresh id)
  | @tail r s hbefore hmoment ih =>
      intro id flow hflow hloop hdone
      rcases hmoment.publishesLoop (Evolves.orderly hbefore hstart)
        (Evolves.reserved hbefore hstart hreserved).withheld hflow hloop hdone with
        ⟨hearlier, hcomplete⟩ | hpublishes
      · exact (ih id flow hearlier hloop hcomplete).later hmoment
      · exact .now hbefore hmoment hpublishes

end

/-! ## The limit of passes -/

/-- The innermost flow is a loop between two passes, another pass is due, and it has begun as many
as the limit allows. -/
structure Exceeds (s : Session) (name : String) (limit : Nat) : Prop where
  loop : ∃ scope id flow, s.AtStep scope id flow .nextPass ∧ flow.definition = name ∧
    flow.passes = limit ∧ flow.finished = false ∧ match flow.repetition with
      | .whileConditions => flow.settings.conditions ≠ [] ∧
          (s.judge (s.scope (s.scopeOf id)).state).allPass .null flow.settings.conditions = .ok true
      | .forItems => flow.passes < flow.items.length
      | .once => False
  limit : s.settings.maxLoopPasses = limit

open Error

variable {s s' : Session} {id : TaskId} {scope : ScopeId} {flow : Flow}

theorem isPassDue_eq_true_iff : s.isPassDue id flow = .ok true ↔ match flow.repetition with
    | .whileConditions => flow.settings.conditions ≠ [] ∧
        (s.judge (s.scope (s.scopeOf id)).state).allPass .null flow.settings.conditions = .ok true
    | .forItems => flow.passes < flow.items.length
    | .once => False := by
  unfold isPassDue
  cases flow.repetition with
  | whileConditions =>
      dsimp only
      split_ifs with hempty
      · rw [List.isEmpty_iff] at hempty
        simp [hempty]
      · rw [List.isEmpty_iff] at hempty
        simp [hempty]
  | forItems => simp [Flow.hasNextItem]
  | once => simp

/-- A turn fails because of the limit if and only if the innermost flow is a loop that has begun as
many passes as it may and has another one to make. -/
theorem turn_exceeds_iff (hsecure : s.Secure) (htallied : s.Tallied) {name : String} {limit : Nat} :
    s.turn.1 = .error (.tooManyPasses name limit) ↔ s.Exceeds name limit := by
  constructor
  · intro hfails
    have hstops : ¬ FailsAs stopsStep s.turn.1 := fun h => nomatch h _ hfails
    rcases hsecure.turn_cases with ⟨turn, hturn⟩ | ⟨scope, id, flow, child, inner, hat⟩ |
      ⟨scope, id, flow, step, hat⟩
    · rw [hturn] at hfails
      cases hfails
    · exact absurd hat.failsAs_turn hstops
    · by_cases hstep : step = .nextPass
      · subst hstep
        obtain ⟨task, hwork⟩ := hat.working
        obtain ⟨result, s', hturn⟩ : ∃ result s', s.turn = (result, s') := ⟨_, _, rfl⟩
        rw [hturn] at hfails hstops
        cases hat.advanced hturn with
        | unjudged hfinished hdue =>
            have hrule := hsecure.resolved.failsAs_isPassDue hwork.flowAt? _ hdue
            exact absurd (.error (stopsStep_of_ofRule hrule)) hstops
        | exceeded hfinished hdue hlimit =>
            cases hfails
            exact ⟨⟨scope, id, flow, hat, rfl,
              Nat.le_antisymm (htallied.flows hwork.flowAt?).limited hlimit, hfinished,
              isPassDue_eq_true_iff.mp hdue⟩, rfl⟩
        | begun => cases hfails
        | unpublished hover hmark hresult =>
            have hpath := flow.failsAs_publication _ _ hresult
            exact absurd (.error (stopsStep_of_ofPath hpath)) hstops
        | published => cases hfails
      · exact absurd (hat.failsAs_turn hsecure.resolved hstep) hstops
  · rintro ⟨⟨scope, id, flow, hat, rfl, rfl, hfinished, hdue⟩, hlimit⟩
    rw [hat.turn_of_nextPass hfinished, isPassDue_eq_true_iff.mpr hdue]
    dsimp only
    rw [if_pos (Nat.le_of_eq hlimit), hlimit]

theorem Moment.secure (hmoment : Moment s s') (hsecure : s.Secure) : s'.Secure := by
  cases hmoment with
  | turn hturn => exact Move.secure (.turn hturn) hsecure
  | act _ hact => exact Move.secure (.act hact) hsecure
  | breakpoint name => exact Move.secure (.breakpoint name) hsecure
  | requeued events =>
      have halike := alike_requeue s events
      exact ⟨halike.sound hsecure.sound, halike.placed hsecure.placed,
        hsecure.resolved.of_grows halike.grows rfl, hsecure.stacked.active, hsecure.stacked.history⟩

theorem Evolves.secure (hevolves : s.Evolves s') (hsecure : s.Secure) : s'.Secure := by
  induction hevolves with
  | refl => exact hsecure
  | tail _ hmoment ih => exact hmoment.secure ih

/-- A pull fails because of the limit as its last turn does. -/
theorem exists_exceeds_iff (hsecure : s.Secure) (htallied : s.Tallied) (horderly : s.Orderly)
    {name : String} {limit : Nat} :
    (∃ turns, (s.pullWithin turns).1 = .failed (.tooManyPasses name limit)) ↔
      ∃ count r, Turns count s r ∧ r.Exceeds name limit := by
  have hlimited : ∀ {count r}, Turns count s r →
      (r.turn.1 = .error (.tooManyPasses name limit) ↔ r.Exceeds name limit) := fun hturns =>
    turn_exceeds_iff (hturns.evolves.secure hsecure) (hturns.evolves.tallied horderly htallied)
  constructor
  · rintro ⟨turns, hfails⟩
    have hpull : s.pullWithin turns =
        (.failed (.tooManyPasses name limit), (s.pullWithin turns).2) := Prod.ext hfails rfl
    obtain ⟨count, r, result, hturns, hlast, hanswer⟩ := exists_last_turn hpull (by simp)
    have hresult : result = .error (.tooManyPasses name limit) := by
      unfold Turn.answer? at hanswer
      split at hanswer <;> cases hanswer
      rfl
    exact ⟨count, r, hturns, (hlimited hturns).mp (by rw [hlast, hresult])⟩
  · rintro ⟨count, r, hturns, hexceeds⟩
    have hlast : r.turn = (.error (.tooManyPasses name limit), r.turn.2) :=
      Prod.ext ((hlimited hturns).mpr hexceeds) rfl
    refine ⟨count + 1, ?_⟩
    rw [hturns.pullWithin, pullWithin_of_answer hlast rfl]

/-! ## The account of a loop in full -/

/-- A loop that is complete: nothing of it is open, each of its passes has left a snapshot, and it
has published the list of them. -/
structure LoopEnded (start s : Session) (id : TaskId) (flow : Flow) : Prop where
  closed : flow.pass = none ∧ flow.current = none
  passes : flow.passes = flow.snapshots.length
  /-- Every item has had its pass, unless a break in the last pass has stopped the loop. -/
  exhausted : flow.repetition = .forItems →
    flow.passes = flow.items.length ∨ StoppedShort start s id flow
  published : Along start s fun r r' => PublishesLoop r r' id flow

/-- What is true of a loop at every moment. -/
structure LoopAccount (start s : Session) (id : TaskId) (flow : Flow) : Prop where
  /-- Each pass that was begun has ended and left its snapshot, or it is the one that is open. -/
  passes : flow.passes = flow.snapshots.length + flow.pass.toList.length
  limited : flow.passes ≤ start.settings.maxLoopPasses
  itemized : flow.repetition = .forItems → flow.passes ≤ flow.items.length
  /-- The items are those that were read when the loop was opened. -/
  opened : Along start s fun r r' => ∃ built, BuildsFlow r r' id built ∧ built.items = flow.items
  /-- Whatever happens later, they stay the same. -/
  kept : ∀ s', s.Evolves s' → ∃ flow', s'.flowAt? id = some flow' ∧ flow'.items = flow.items
  /-- The snapshots are in the order of the passes that have left them. -/
  ordered : ∀ index snapshot, flow.snapshots[index]? = some snapshot → Along start s fun r r' =>
    ∃ before pass, EndsPass r r' id before pass snapshot ∧ before.passes = index + 1 ∧
      before.snapshots = flow.snapshots.take index
  ended : s.IsComplete id → LoopEnded start s id flow

/-- At every moment of a run, after going back as well, the accounts of all loops are right; and a
pull fails because of the limit of passes if and only if a loop has begun as many as it may and
another one is due. -/
theorem loops_accounted {document : Document} {settings : SessionSettings} {ownsEvents : Bool}
    {start s : Session} (hstart : Session.start document settings ownsEvents = .ok start)
    (hevolves : start.Evolves s) :
    start.settings.maxLoopPasses = settings.maxLoopPasses ∧
    (∀ id flow, s.flowAt? id = some flow → flow.isLoop = true → LoopAccount start s id flow) ∧
    ∀ name limit, (∃ turns, (s.pullWithin turns).1 = .failed (.tooManyPasses name limit)) ↔
      ∃ count r, Turns count s r ∧ r.Exceeds name limit := by
  have hsecure := hevolves.secure (start_secure hstart)
  have horderly := (orderly_start hstart).1
  obtain ⟨declared, -, rfl⟩ := start_eq hstart
  have hreserved := initial_reserved document settings ownsEvents declared.settings
  have hfirst := initial_tallied document settings ownsEvents declared.settings
  have htallied := hevolves.tallied horderly hfirst
  have hchronicled := hevolves.chronicled horderly hfirst fun id flow hflow =>
    initial_chronicled document settings ownsEvents declared.settings hflow
  have hpublished := hevolves.publishesLoop horderly hreserved fun id hdone => by
    obtain ⟨task, htask, hcomplete⟩ := hdone
    obtain ⟨index⟩ := id
    cases index with
    | zero =>
        cases htask
        cases hcomplete
    | succ index => cases htask
  refine ⟨rfl, fun id flow hflow hloop => ?_, fun name limit =>
    exists_exceeds_iff hsecure htallied (hevolves.orderly horderly)⟩
  have hsums := htallied.flows hflow
  have hstory := hchronicled id flow hflow
  have hlimit := hevolves.grows.limit
  refine ⟨hsums.passes, hlimit ▸ hsums.limited, hsums.itemized, hstory.opened hloop,
    fun s' hlater => ?_, hstory.ordered, fun hdone => ?_⟩
  · obtain ⟨flow', hflow', hskeleton⟩ := hlater.grows.flowAt? hflow
    exact ⟨flow', hflow', (Flow.of_skeleton hskeleton).2.2.2⟩
  · have halong := hpublished id flow hflow hloop hdone
    have ⟨_, _, _, _, _, hpublishes⟩ := halong
    obtain ⟨-, hnone, hcurrent⟩ := hsums.finished hpublishes.after.2
    refine ⟨⟨hnone, hcurrent⟩, ?_, hstory.exhausted hpublishes.after.2, halong⟩
    rw [hsums.passes, hnone]
    rfl

/-- A document with a loop over three items, in whose first pass there is a break. -/
def labelsDocument : Document where
  repository :=
    { components := []
      validators := []
      flows := [
        ("label", { tasks := [
                      { name := "take", preconditions := [],
                        action := .update [{ operand := .path "$.item", target := "$.label" }] },
                      { name := "stop", preconditions := [], action := .event "break" }],
                    settings := { itemsPath := some "$.items", destination := some "$.labels" } }),
        ("main", { tasks := [
                     { name := "label", preconditions := [], action := .flow .forItems none }],
                   settings := {} })] }
  startingFlow := "main"
  context := .object [("items", .list [.string "first", .string "second", .string "third"])]
  hash := none

def labelled : Session :=
  (initial labelsDocument {} true {}).pull.2

/-- The loop has made one of three passes, because of the break, and has published one snapshot.
Where no pass is allowed, it exceeds the limit. -/
theorem labelled_accounted :
    (∃ start flow, Session.start labelsDocument {} true = .ok start ∧
      labelled.flowAt? ⟨1⟩ = some flow ∧ flow.passes = 1 ∧ flow.items.length = 3 ∧
      flow.snapshots = [.object [("label", .string "first")]] ∧
      StoppedShort start labelled ⟨1⟩ flow ∧
      Along start labelled fun r r' => PublishesLoop r r' ⟨1⟩ flow) ∧
    ∃ start count r, Session.start labelsDocument { maxLoopPasses := 0 } true = .ok start ∧
      Turns count start r ∧ r.Exceeds "label" 0 := by
  constructor
  · have hstart : Session.start labelsDocument {} true =
        .ok (initial labelsDocument {} true {}) :=
      start_initial (by decide +kernel) rfl
    have hevolves : (initial labelsDocument {} true {}).Evolves labelled := by
      rw [labelled, pull]
      exact evolves_pullWithin _ _
    have hdata : (labelled.flowAt? ⟨1⟩).map (fun flow =>
        (flow.isLoop, flow.repetition, flow.passes, flow.items.length, flow.snapshots)) =
        some (true, .forItems, 1, 3, [.object [("label", .string "first")]]) := by
      decide +kernel
    have hdone : labelled.IsComplete ⟨1⟩ := by
      have hcomplete : (labelled.taskAt? ⟨1⟩).map Task.complete = some true := by decide +kernel
      obtain ⟨task, htask, hcomplete⟩ := Option.map_eq_some_iff.mp hcomplete
      exact ⟨task, htask, hcomplete⟩
    obtain ⟨flow, hflow, hdata⟩ := Option.map_eq_some_iff.mp hdata
    obtain ⟨hloop, hrepetition, hpasses, hitems, hsnapshots⟩ :
        flow.isLoop = true ∧ flow.repetition = .forItems ∧ flow.passes = 1 ∧
          flow.items.length = 3 ∧ flow.snapshots = [.object [("label", .string "first")]] := by
      simpa using hdata
    have haccount := (loops_accounted hstart hevolves).2.1 ⟨1⟩ flow hflow hloop
    have hended := haccount.ended hdone
    refine ⟨_, flow, hstart, hflow, hpasses, hitems, hsnapshots, ?_, hended.published⟩
    refine (hended.exhausted hrepetition).resolve_left ?_
    rw [hpasses, hitems]
    decide
  · have hstart : Session.start labelsDocument { maxLoopPasses := 0 } true =
        .ok (initial labelsDocument { maxLoopPasses := 0 } true {}) :=
      start_initial (by decide +kernel) rfl
    have hfails : ((initial labelsDocument { maxLoopPasses := 0 } true {}).pullWithin 3).1 =
        .failed (.tooManyPasses "label" 0) := by
      decide +kernel
    obtain ⟨count, r, hturns, hexceeds⟩ :=
      ((loops_accounted hstart .refl).2.2 "label" 0).mp ⟨3, hfails⟩
    exact ⟨_, count, r, hstart, hturns, hexceeds⟩

end Session

end Workflow
