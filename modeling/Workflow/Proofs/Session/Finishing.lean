import Workflow.Proofs.Session.Publishing

/-!
# The result and the end of a session

A session has no result before it is finished.  It is finished when the root flow has published and
is left, and of all scopes that are closed the root scope alone keeps its trees.  So what the root
flow published stays the result, `Session.Finishing`.

Nothing that happens to a finished session reaches the root scope or begins a flow again: there is
no flow to take a turn, and none that a record could be restored for.
-/

namespace Workflow

/-- Two flows that were opened as the same one publish the same, unless they are loops. -/
theorem Flow.publication_of_skeleton {flow other : Flow} (hsame : flow.skeleton = other.skeleton)
    (hloop : other.isLoop = false) (state : Value) :
    flow.publication state = other.publication state := by
  obtain ⟨-, hrepetition, hsettings, -⟩ := Flow.of_skeleton hsame
  have hloop' : flow.isLoop = false := by rw [isLoop, hrepetition, ← isLoop, hloop]
  simp only [publication, hloop, hloop', hsettings, Bool.false_eq_true, ↓reduceIte]

theorem Scope.trees_release_true (scope : Scope) :
    (scope.release true).state = scope.state ∧ (scope.release true).result = scope.result := by
  by_cases hreleased : scope.released = true
  · rw [release, if_pos hreleased]
    exact ⟨rfl, rfl⟩
  · rw [release, if_neg hreleased]
    exact ⟨rfl, rfl⟩

namespace Session

def SameTrees (s s' : Session) (scope : ScopeId) : Prop :=
  (s'.scope scope).state = (s.scope scope).state ∧
    (s'.scope scope).result = (s.scope scope).result

/-- What the root flow has published is the result, and the root flow is complete when no flow is
being run any more. -/
structure Finishing (s : Session) : Prop where
  published : ∀ ⦃flow⦄, s.flowAt? s.root = some flow → s.IsComplete s.root →
    s.Published s.rootScope flow
  complete : s.active.toList = [] → s.IsComplete s.root

section

variable {s r s' : Session} {id : TaskId} {flow : Flow} {scope : ScopeId}

theorem SameTrees.of_same (hsame : s'.scopeAt? scope = s.scopeAt? scope) :
    SameTrees s s' scope := by
  rw [SameTrees, scope_congr hsame]
  exact ⟨rfl, rfl⟩

theorem SameTrees.trans (hfirst : SameTrees s r scope) (hsecond : SameTrees r s' scope) :
    SameTrees s s' scope :=
  ⟨hsecond.1.trans hfirst.1, hsecond.2.trans hfirst.2⟩

/-- The root scope keeps its trees when it is closed. -/
theorem sameTrees_closeScope_root (s : Session) :
    SameTrees s (s.closeScope s.rootScope) s.rootScope := by
  rw [SameTrees, scope_eq, scope_eq, scopeAt?_closeScope, if_pos rfl, beq_self_eq_true]
  cases s.scopeAt? s.rootScope with
  | none => exact ⟨rfl, rfl⟩
  | some found => exact found.trees_release_true

theorem Published.of_sameTrees (hpublished : s.Published scope flow)
    (hsame : SameTrees s s' scope) : s'.Published scope flow := by
  obtain ⟨value, hvalue, hresult⟩ := hpublished
  refine ⟨value, ?_, ?_⟩
  · rw [hsame.1]
    exact hvalue
  · rw [hsame.2]
    exact hresult

theorem Grows.isComplete (hgrows : Grows s s') (hcomplete : s.IsComplete id) :
    s'.IsComplete id := by
  obtain ⟨task, htask, hdone⟩ := hcomplete
  obtain ⟨task', htask', -, hkept⟩ := hgrows.tasks htask
  exact ⟨task', htask', hkept hdone⟩

/-! ## The root flow -/

theorem Nested.root_suffix {scopes : List ScopeId} (hnested : s.Nested id scopes) :
    [s.rootScope] <:+ scopes := by
  induction hnested with
  | root => exact List.suffix_rfl
  | child _ _ _ _ _ _ _ ih => exact ih.trans (List.suffix_cons _ _)

/-- As long as any flow is being run, the root flow is. -/
theorem Sound.root_running (hsound : s.Sound) (hactive : s.active.toList ≠ []) :
    s.Running s.root := by
  obtain ⟨innermost, hnested⟩ := hsound.nested.resolve_left hactive
  exact ⟨s.rootScope, [], hnested.root_suffix, .root⟩

/-- A complete root flow is not run any more while the session rests. -/
theorem Resting.active_eq_nil (hrest : s.Resting) (hsound : s.Sound)
    (hcomplete : s.IsComplete s.root) : s.active.toList = [] := by
  by_contra hactive
  exact hrest.running_incomplete hsound (hsound.root_running hactive) hcomplete

/-- The trees of a complete root flow stay as they are when a turn leaves it. -/
theorem sameTrees_turn {result : Except Error Turn} (hturn : s.turn = (result, s'))
    (hsound : s.Sound) (hcomplete : s.IsComplete s.root) : SameTrees s s' s.rootScope := by
  by_cases hidle : s.redirectedTo.isSome ∨ s.active.head? = none
  · rw [turn_of_not_running hidle] at hturn
    cases hturn
    exact ⟨rfl, rfl⟩
  · rw [not_or, Option.not_isSome_iff_eq_none] at hidle
    obtain ⟨hcalm, hactive⟩ := hidle
    have hnonempty : s.active.toList ≠ [] := by
      rwa [Cursor.head?_eq hsound.active, List.head?_eq_none_iff] at hactive
    have hnested := (hsound.root_running hnonempty).innermost_of_isComplete hsound hcomplete
    obtain ⟨hhead, hbound⟩ := hsound.head_of_nested hnested
    obtain ⟨task, htask, hdone⟩ := hcomplete
    rw [turn_of_complete hcalm hhead hbound htask hdone, leave] at hturn
    dsimp only at hturn
    split_ifs at hturn <;> cases hturn
    · exact sameTrees_closeScope_root { s with active := s.active.pop }
    · exact ⟨rfl, rfl⟩

/-- The turn that leaves the last flow ends the pull, and the flow is the root flow. -/
theorem Turned.ends {result : Except Error Turn} (hturned : s.Turned result s')
    (hsound : s.Sound) (hactive : s.active.toList ≠ []) (hempty : s'.active.toList = []) :
    result = .ok .ended ∧ s.IsComplete s.root := by
  have hsame : s'.active = s.active → result = .ok .ended ∧ s.IsComplete s.root := by
    intro hsame
    rw [hsame] at hempty
    exact absurd hempty hactive
  cases hturned with
  | idle | stuck | waiting | interrupted | dropped | skipped | unopened | passOpened | passEnded =>
      exact hsame rfl
  | unbound hhead hnone =>
      obtain ⟨innermost, outer, -, -, hbound⟩ := hsound.head hhead
      rw [hnone] at hbound
      cases hbound
  | left _ hhead hbound htask hcomplete hleave =>
      obtain ⟨outer, hlist, hnested⟩ := hsound.nested_head hhead hbound
      have hpopped : s.active.pop.toList = outer := by
        rw [Cursor.toList_pop hsound.active, hlist, List.tail_cons]
      rw [leave] at hleave
      dsimp only at hleave
      split_ifs at hleave with hlast
      · cases hleave
        have houter : outer = [] := hpopped.symm.trans hempty
        subst houter
        cases hnested with
        | root => exact ⟨rfl, _, htask, hcomplete⟩
        | child houter => cases houter
      · cases hleave
        have hlast' : s.active.pop.toList = [] := hempty
        rw [Cursor.isEmpty_eq hsound.active.pop, hlast'] at hlast
        exact absurd rfl hlast
  | @entered _ _ _ child =>
      have hpushed : (s.active.push child.scope).toList = [] := hempty
      rw [Cursor.toList_push hsound.active] at hpushed
      cases hpushed
  | @settled _ owner _ child _ ran _ _ _ hrun =>
      exact hsame ((foldChild_others ran owner child).1.trans (runChild_others hrun).1)
  | opened => exact hsame (by simp)
  | @published _ owner _ _ mark => exact hsame (concluded_others s owner mark).1
  | @unpublished _ owner => exact hsame (concluded_others s owner true).1

/-! ## At any moment -/

theorem Finishing.turn {result : Except Error Turn} (hfinishing : s.Finishing)
    (hturn : s.turn = (result, s')) (horderly : s.Orderly) (hreserved : s.Reserved) :
    s'.Finishing := by
  have hturned := turned hturn
  have hsound := horderly.sound
  have hwired := horderly.wired
  have hgrows := hturned.grows
  have hroot : s'.root = s.root := hgrows.root
  have hscope : s'.rootScope = s.rootScope := hgrows.rootScope hwired
  constructor
  · intro flow' hflow' hcomplete'
    rw [hroot] at hflow' hcomplete'
    rw [hscope]
    obtain ⟨outermost, houtermost, hisFlow, -⟩ := hwired.rooted
    rcases hturned.isComplete hwired hcomplete' with hcomplete | ⟨task, htask, hleaf⟩ |
      ⟨scope, flow, step, mark, value, hat, -, hresult, rfl⟩
    · obtain ⟨flow, hflow, -⟩ := hgrows.flowAt?_before hflow' (taskAt?_lt houtermost)
      have hsame := flowAt?_turn_of_isComplete hturn hsound hflow hcomplete
      rw [hflow'] at hsame
      cases hsame
      exact (hfinishing.published hflow hcomplete).of_sameTrees
        (sameTrees_turn hturn hsound hcomplete)
    · rw [houtermost] at htask
      cases htask
      rw [hisFlow] at hleaf
      cases hleaf
    · obtain ⟨task, hwork⟩ := hat.working
      have hempty := hreserved.withheld hwork.here (by rw [Task.isFlow, hwork.runs]; rfl)
        hwork.incomplete
      rw [← scopeOf_eq_of_taskAt? hwork.here] at hempty
      rw [flowAt?_published, hwork.flowAt?] at hflow'
      cases hflow'
      refine ⟨value, ?_, ?_⟩
      · rw [rootScope, hwired.scope_published hwork.here, Flow.publication_concluded]
        exact hresult
      · rw [rootScope, hwired.scope_published hwork.here]
        exact congrArg (Value.merge · value) hempty
  · intro hempty
    rw [hroot]
    apply hgrows.isComplete
    by_cases hactive : s.active.toList = []
    · exact hfinishing.complete hactive
    · exact (hturned.ends hsound hactive hempty).2

/-- Going back leaves a flow to be run. -/
theorem Sound.active_restore (hsound : s.Sound) {requester : Option TaskId} {entry : Visit}
    {target : ScopeId}
    (htarget : s.returnTarget? entry.flow requester s.active.toList = some target) :
    (s.restore target entry).active.toList ≠ [] := by
  rcases hsound.nested with hempty | ⟨innermost, hnested⟩
  · rw [hempty] at htarget
    cases htarget
  · obtain ⟨-, outer, hsuffix, hflow⟩ := hnested.of_returnTarget? hsound.wired htarget
    rw [(restored hsound.wired hsound.active hnested hsuffix hflow).active]
    exact List.cons_ne_nil target outer

theorem Finishing.act (hfinishing : s.Finishing) (hact : Act id s s') (hsound : s.Sound)
    (hrest : s.Resting) : s'.Finishing := by
  have hgrows := hact.grows
  have hroot : s'.root = s.root := hgrows.root
  constructor
  · intro flow' hflow' hcomplete'
    rw [hroot] at hflow' hcomplete'
    rw [hgrows.rootScope hsound.wired]
    obtain ⟨hflow, hcomplete⟩ := hact.isComplete_flow hsound hrest hflow' hcomplete'
    have hbefore := hfinishing.published hflow hcomplete
    rcases hact.quiet_or_returned with hquiet | ⟨task, entry, target, -, -, htarget, rfl⟩
    · obtain ⟨task, htask, hisFlow, -⟩ := hsound.wired.rooted
      have hsame := hquiet.scopeAt?_of_isFlow hsound.wired htask hisFlow
      rw [← scopeOf_eq_of_taskAt? htask] at hsame
      exact hbefore.of_sameTrees (.of_same hsame)
    · rw [hrest.active_eq_nil hsound hcomplete] at htarget
      cases htarget
  · intro hempty
    rw [hroot]
    apply hgrows.isComplete
    apply hfinishing.complete
    rcases hact.quiet_or_returned with hquiet | ⟨task, entry, target, -, -, htarget, rfl⟩
    · rwa [hquiet.active] at hempty
    · exact absurd hempty (hsound.active_restore htarget)

theorem Alike.finishing (halike : Alike s s') (hsound : s.Sound) (hfinishing : s.Finishing) :
    s'.Finishing := by
  have htasks : ∀ id, s'.taskAt? id = s.taskAt? id := by simp [taskAt?, halike.tasks]
  have hroot : s'.root = s.root := halike.grows.root
  constructor
  · intro flow hflow hcomplete
    rw [hroot, flowAt?, htasks] at hflow
    rw [hroot, isComplete_congr (htasks s.root)] at hcomplete
    rw [halike.grows.rootScope hsound.wired]
    have hsame : s'.scopeAt? s.rootScope = s.scopeAt? s.rootScope := by
      simp [scopeAt?, halike.scopes]
    exact (hfinishing.published hflow hcomplete).of_sameTrees (.of_same hsame)
  · intro hempty
    rw [halike.active] at hempty
    rw [hroot, isComplete_congr (htasks s.root)]
    exact hfinishing.complete hempty

theorem Evolves.finishing (hevolves : s.Evolves s') (horderly : s.Orderly)
    (hreserved : s.Reserved) (hfinishing : s.Finishing) : s'.Finishing := by
  induction hevolves with
  | refl => exact hfinishing
  | tail hbefore hmoment ih =>
      have horderly' := Evolves.orderly hbefore horderly
      rcases hmoment.cases_alike with ⟨result, hturn⟩ | ⟨id, hrest, hact⟩ | halike
      · exact ih.turn hturn horderly' (Evolves.reserved hbefore horderly hreserved)
      · exact ih.act hact horderly'.sound hrest
      · exact halike.finishing horderly'.sound ih

/-! ## After the end -/

/-- Whatever happens next, a finished session stays finished, and its trees stay as they are. -/
theorem Moment.after_end (hmoment : Moment s s') (hsound : s.Sound)
    (hempty : s.active.toList = []) :
    s'.active.toList = [] ∧ SameTrees s s' s.rootScope := by
  rcases hmoment.cases_alike with ⟨result, hturn⟩ | ⟨id, -, hact⟩ | halike
  · have hhead : s.active.head? = none := by
      rw [Cursor.head?_eq hsound.active, hempty]
      rfl
    rw [turn_of_not_running (.inr hhead)] at hturn
    cases hturn
    exact ⟨hempty, rfl, rfl⟩
  · rcases hact.quiet_or_returned with hquiet | ⟨task, entry, target, -, -, htarget, rfl⟩
    · obtain ⟨task, htask, hisFlow, -⟩ := hsound.wired.rooted
      have hsame := hquiet.scopeAt?_of_isFlow hsound.wired htask hisFlow
      rw [← scopeOf_eq_of_taskAt? htask] at hsame
      exact ⟨hquiet.active.symm ▸ hempty, .of_same hsame⟩
    · rw [hempty] at htarget
      cases htarget
  · have hsame : s'.scopeAt? s.rootScope = s.scopeAt? s.rootScope := by
      simp [scopeAt?, halike.scopes]
    exact ⟨halike.active.symm ▸ hempty, .of_same hsame⟩

theorem Evolves.after_end (hevolves : s.Evolves s') (horderly : s.Orderly)
    (hempty : s.active.toList = []) :
    s'.active.toList = [] ∧ SameTrees s s' s.rootScope := by
  induction hevolves with
  | refl => exact ⟨hempty, rfl, rfl⟩
  | tail hbefore hmoment ih =>
      obtain ⟨hempty', htrees⟩ := ih
      obtain ⟨hafter, hlast⟩ :=
        hmoment.after_end (Evolves.orderly hbefore horderly).sound hempty'
      rw [(Evolves.grows hbefore).rootScope horderly.wired] at hlast
      exact ⟨hafter, htrees.trans hlast⟩

/-- Turns that lead on leave a flow to be run. -/
theorem Turns.active_ne_nil {count : Nat} (hturns : Turns count s s') (hsound : s.Sound)
    (hactive : s.active.toList ≠ []) : s'.active.toList ≠ [] := by
  induction hturns with
  | refl => exact hactive
  | turn hturn _ ih =>
      have hturned := turned hturn
      apply ih (hturned.sound hsound)
      intro hempty
      obtain ⟨hended, -⟩ := hturned.ends hsound hactive hempty
      cases hended

theorem Acts.active_ne_nil (hacts : Acts id s s') (hsound : s.Sound)
    (hactive : s.active.toList ≠ []) : s'.active.toList ≠ [] := by
  induction hacts with
  | refl => exact hactive
  | tail hbefore hact ih =>
      rcases hact.quiet_or_returned with hquiet | ⟨task, entry, target, -, -, htarget, rfl⟩
      · rw [hquiet.active]
        exact ih
      · exact (Moves.sound (Acts.moves hbefore) hsound).active_restore htarget

/-- Only a pull finishes a session, and it ends. -/
theorem Drive.ends (hdrive : s.Drive s') (hsound : s.Sound) (hactive : s.active.toList ≠ [])
    (hempty : s'.active.toList = []) : ∃ turns, s.pullWithin turns = (.ended, s') := by
  cases hdrive with
  | requeued events => exact absurd hempty hactive
  | operated hstep =>
      cases hstep with
      | @pulled turns answer _ hpull hanswer =>
          obtain ⟨count, r, result, hturns, hlast, hresult⟩ := exists_last_turn hpull hanswer
          have hsound' := Moves.sound hturns.moves hsound
          obtain ⟨rfl, -⟩ :=
            (turned hlast).ends hsound' (hturns.active_ne_nil hsound hactive) hempty
          cases hresult
          exact ⟨turns, hpull⟩
      | filledIn field value =>
          exact absurd hempty ((fillIn_acts s _ _ _).active_ne_nil hsound hactive)
      | clicked => exact absurd hempty ((click_acts s _ _).active_ne_nil hsound hactive)
      | answered => exact absurd hempty ((answer_acts s _ _).active_ne_nil hsound hactive)
      | breakpointSet => exact absurd hempty hactive

theorem Sound.isFinished_iff (hsound : s.Sound) :
    s.isFinished = true ↔ s.active.toList = [] := by
  rw [isFinished, Cursor.isEmpty_eq hsound.active, List.isEmpty_iff]

theorem pullWithin_of_finished (hsound : s.Sound) (hempty : s.active.toList = []) (turns : Nat) :
    s.pullWithin (turns + 1) = (.ended, s) := by
  have hhead : s.active.head? = none := by
    rw [Cursor.head?_eq hsound.active, hempty]
    rfl
  exact pullWithin_of_answer (turn_of_not_running (.inr hhead)) rfl turns

theorem initial_finishing (document : Document) (settings : SessionSettings) (ownsEvents : Bool)
    (flowSettings : FlowSettings) :
    (initial document settings ownsEvents flowSettings).Finishing := by
  constructor
  · rintro flow - ⟨task, htask, hcomplete⟩
    cases htask
    cases hcomplete
  · intro hempty
    cases hempty

end

/-- What becomes of a finished session: it stays finished, a pull ends at once, and what can be read
of it stays the same. -/
structure StaysOver (s s' : Session) : Prop where
  finished : s'.isFinished = true
  depth : s'.depth = 0
  pull : s'.pull = (.ended, s')
  state : s'.state = s.state
  result : s'.result = s.result

/-- A session that is not finished has no result, and only a pull finishes it.  Then its result is
what the root flow of the document publishes of its state, and this is so for good, whatever the
program around the session does. -/
theorem result_until_and_after_end {document : Document} {settings : SessionSettings}
    {ownsEvents : Bool} {start s : Session}
    (hstart : Session.start document settings ownsEvents = .ok start) (hdrives : start.Drives s) :
    (s.isFinished = false → s.result = .empty ∧
        ∀ s', s.Drive s' → s'.isFinished = true → ∃ turns, s.pullWithin turns = (.ended, s')) ∧
      (s.isFinished = true →
        (∃ declared value,
          Keyed.get? document.startingFlow document.repository.flows = some declared ∧
            Flow.publication { definition := document.startingFlow, repetition := .once,
                               settings := declared.settings } s.state = .ok value ∧
            s.result = Value.empty.merge value) ∧
          ∀ s', s.Drives s' → StaysOver s s') := by
  obtain ⟨hordered, hrested⟩ := orderly_start hstart
  obtain ⟨hevolves, hrest⟩ := hdrives.evolves hordered hrested
  have horderly := hevolves.orderly hordered
  have hsound := horderly.sound
  have hdriven : s.Driven := ⟨document, settings, ownsEvents, start, hstart, hdrives⟩
  constructor
  · intro hopen
    have hactive : s.active.toList ≠ [] := by
      rw [ne_eq, ← hsound.isFinished_iff, hopen]
      exact Bool.false_ne_true
    constructor
    · obtain ⟨task, htask, hisFlow, -⟩ := hsound.wired.rooted
      have hincomplete := hrest.running_incomplete hsound (hsound.root_running hactive)
      have hempty := hdriven.reserved.withheld htask hisFlow
        (Bool.eq_false_iff.mpr fun hdone => hincomplete ⟨task, htask, hdone⟩)
      rwa [← scopeOf_eq_of_taskAt? htask] at hempty
    · intro s' hdrive hfinished
      have hsound' := (hdriven.drives (.single hdrive)).orderly.1.sound
      exact hdrive.ends hsound hactive (hsound'.isFinished_iff.mp hfinished)
  · intro hfinished
    have hempty := hsound.isFinished_iff.mp hfinished
    constructor
    · obtain ⟨declared, hdeclared, rfl⟩ := start_eq hstart
      have hreserved := initial_reserved document settings ownsEvents declared.settings
      have hfinishing := hevolves.finishing hordered hreserved
        (initial_finishing document settings ownsEvents declared.settings)
      have hfirst : (initial document settings ownsEvents declared.settings).flowAt? ⟨0⟩ =
          some { definition := document.startingFlow, repetition := .once,
                 settings := declared.settings } := rfl
      obtain ⟨flow, hflow, hskeleton⟩ := hevolves.grows.flowAt? hfirst
      have hroot : s.root = ⟨0⟩ := hevolves.grows.root
      rw [← hroot] at hflow
      obtain ⟨value, hvalue, hresult⟩ :=
        hfinishing.published hflow (hfinishing.complete hempty)
      rw [Flow.publication_of_skeleton hskeleton rfl] at hvalue
      exact ⟨declared, value, hdeclared, hvalue, hresult⟩
    · intro s' hdrives'
      obtain ⟨hevolves', -⟩ := hdrives'.evolves horderly hrest
      obtain ⟨hempty', hstate, hresult⟩ := hevolves'.after_end horderly hempty
      have hsound' := (hevolves'.orderly horderly).sound
      have hscope := hevolves'.grows.rootScope horderly.wired
      refine ⟨hsound'.isFinished_iff.mpr hempty', ?_, ?_, ?_, ?_⟩
      · rw [depth, Cursor.depth, hempty']
        rfl
      · have hlimit : 0 < s'.turnLimit := lt_turnLimit s' (by decide)
        obtain ⟨turns, hturns⟩ := Nat.exists_eq_succ_of_ne_zero (Nat.ne_of_gt hlimit)
        rw [pull, hturns]
        exact pullWithin_of_finished hsound' hempty' turns
      · rw [state, hscope]
        exact hstate
      · rw [result, hscope]
        exact hresult

/-- A document that asks, and then has a flow of its own confirm; it publishes a literal. -/
def receiptDocument : Document where
  repository :=
    { components := [actionButton "next", actionButton "back"]
      validators := []
      flows := [
        ("main", { tasks := [
                     twoWayScreen "ask",
                     { name := "inner", preconditions := [], action := .flow .once none }],
                   settings := { literal := some (.object [("paid", .bool true)]) } }),
        ("inner", { tasks := [twoWayScreen "confirm"], settings := {} })] }
  startingFlow := "main"
  context := .object []
  hash := none

/-- The session of `receiptDocument` that has gone back from the inner flow once, and then has all
its screens completed. -/
def receiptConfirmed : Session :=
  let start := initial receiptDocument {} true { literal := some (.object [("paid", .bool true)]) }
  let left := ((start.pull.2.click ⟨1⟩ "next").2.pull.2.click ⟨3⟩ "back").2
  ((left.pull.2.click ⟨4⟩ "next").2.pull.2.click ⟨6⟩ "next").2

/-- The next pull finishes the session.  The screen that was gone back from can still be completed
and is recorded then, and nothing comes of it. -/
theorem receipt_result :
    receiptConfirmed.result = .empty ∧
      (∃ turns, receiptConfirmed.pullWithin turns = (.ended, receiptConfirmed.pull.2)) ∧
      receiptConfirmed.pull.2.result = .object [("paid", .bool true)] ∧
      (receiptConfirmed.pull.2.click ⟨3⟩ "next").2.historyDepth = 3 ∧
      StaysOver receiptConfirmed.pull.2 (receiptConfirmed.pull.2.click ⟨3⟩ "next").2 := by
  have hstart : Session.start receiptDocument {} true =
      .ok (initial receiptDocument {} true
        { literal := some (.object [("paid", .bool true)]) }) :=
    start_initial (by decide +kernel) rfl
  have hrun : (initial receiptDocument {} true
      { literal := some (.object [("paid", .bool true)]) }).Run receiptConfirmed :=
    run_carryOut [.pull, .click ⟨1⟩ "next", .pull, .click ⟨3⟩ "back", .pull, .click ⟨4⟩ "next",
      .pull, .click ⟨6⟩ "next"] (by decide +kernel)
  have hdrives := hrun.drives
  have hpull : receiptConfirmed.pull = (.ended, receiptConfirmed.pull.2) :=
    Prod.ext (by decide +kernel) rfl
  have hpulled : Drive receiptConfirmed receiptConfirmed.pull.2 :=
    .operated (.pulled hpull Pull.noConfusion)
  obtain ⟨hempty, hends⟩ :=
    (result_until_and_after_end hstart hdrives).1 (by decide +kernel)
  obtain ⟨-, hover⟩ :=
    (result_until_and_after_end hstart (hdrives.tail hpulled)).2 (by decide +kernel)
  exact ⟨hempty, hends _ hpulled (by decide +kernel), by decide +kernel, by decide +kernel,
    hover _ (.single (.operated (.clicked ⟨3⟩ "next")))⟩

end Session

end Workflow
