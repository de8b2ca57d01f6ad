import Workflow.Proofs.Interpreter.Bounds
import Workflow.Proofs.Session.Keeping

/-!
# Turns that perform a run

A session performs a run of the interpreter if its turns come to what the run comes to,
`Session.Performs`: to a session that holds the value of the run, with the events of the run in the
queue, or to the turn that fails with its error.  On the way nothing below the flow that is run
changes, and the same flows are active at both ends.

Between two tasks a session holds what the interpreter keeps of a flow in the scope in which the
flow opens its tasks, `Session.Between`.  Folding a child that left its result there leads from one
such place to the next.
-/

namespace Workflow

namespace Session

variable {s s' : Session} {scope : ScopeId} {id : TaskId}

/-- A sound session of a repository on a host, with a limit of passes and without breakpoints. -/
structure Prepared (s : Session) (repository : Repository) (host : Host) (limit : Nat) : Prop where
  sound : s.Sound
  repository : s.repository = repository
  host : s.settings.host = host
  limit : s.settings.maxLoopPasses = limit
  unpaused : s.settings.breakpoints = []

theorem Turns.prepared {count : Nat} {repository : Repository} {host : Host} {limit : Nat}
    (hturns : Turns count s s') (hprepared : s.Prepared repository host limit) :
    s'.Prepared repository host limit where
  sound := Moves.sound hturns.moves hprepared.sound
  repository := (Moves.grows hturns.moves).repository.trans hprepared.repository
  host := by rw [hturns.settings, hprepared.host]
  limit := by rw [hturns.settings, hprepared.limit]
  unpaused := by rw [hturns.settings, hprepared.unpaused]

/-- The second session is what the flow `id` has come to: nothing below the flow and the scope has
changed, the same flows are active, and the queue has grown by some events. -/
structure Leads (s s' : Session) (id : TaskId) (scope : ScopeId) (events : List Event) : Prop where
  below : SameBelow s s' id scope
  active : s'.active.toList = s.active.toList
  events : s'.events.toList = s.events.toList ++ events

theorem Leads.refl (s : Session) (id : TaskId) (scope : ScopeId) : Leads s s id scope [] where
  below := .refl s id scope
  active := rfl
  events := (List.append_nil _).symm

theorem Leads.of_eq (hbelow : SameBelow s s' id scope) (hactive : s'.active = s.active)
    (hevents : s'.events = s.events) : Leads s s' id scope [] where
  below := hbelow
  active := by rw [hactive]
  events := by rw [hevents, List.append_nil]

theorem Leads.trans {s'' : Session} {events later : List Event}
    (hfirst : Leads s s' id scope events) (hsecond : Leads s' s'' id scope later) :
    Leads s s'' id scope (events ++ later) where
  below := hfirst.below.trans hsecond.below
  active := hsecond.active.trans hfirst.active
  events := by rw [hsecond.events, hfirst.events, List.append_assoc]

theorem Leads.mono {lowerId : TaskId} {lower : ScopeId} {events : List Event}
    (hleads : Leads s s' id scope events) (hid : lowerId.index ≤ id.index)
    (hscope : lower.index ≤ scope.index) : Leads s s' lowerId lower events where
  below := hleads.below.mono hid hscope
  active := hleads.active
  events := hleads.events

/-- Within some turns the session comes to what a run of the interpreter comes to. -/
def Performs {α : Type} (s : Session) (id : TaskId) (scope : ScopeId) (bound : Nat)
    (result : Interpreter.Result α) (holds : α → Session → Prop) : Prop :=
  match result with
  | .done value events =>
    ∃ count s', count ≤ bound ∧ Turns count s s' ∧ Leads s s' id scope events ∧ holds value s'
  | .failed error events =>
    ∃ count r s', count ≤ bound ∧ Turns count s r ∧ r.turn = (.error error, s') ∧
      s'.events.toList = s.events.toList ++ events
  | .stuck => False

section

variable {α β : Type} {bound : Nat} {result : Interpreter.Result α} {holds : α → Session → Prop}

theorem Performs.mono {more : Nat} {lowerId : TaskId} {lower : ScopeId}
    {holds' : α → Session → Prop} (hperforms : s.Performs id scope bound result holds)
    (hbound : bound ≤ more) (hid : lowerId.index ≤ id.index) (hscope : lower.index ≤ scope.index)
    (hholds : ∀ value s', holds value s' → holds' value s') :
    s.Performs lowerId lower more result holds' := by
  cases result with
  | done value events =>
      obtain ⟨count, s', hcount, hturns, hleads, hvalue⟩ := hperforms
      exact ⟨count, s', hcount.trans hbound, hturns, hleads.mono hid hscope, hholds _ _ hvalue⟩
  | failed error events =>
      obtain ⟨count, r, s', hcount, hturns, hlast, hevents⟩ := hperforms
      exact ⟨count, r, s', hcount.trans hbound, hturns, hlast, hevents⟩
  | stuck => exact hperforms

theorem Performs.of_le {more : Nat} (hperforms : s.Performs id scope bound result holds)
    (hbound : bound ≤ more) : s.Performs id scope more result holds :=
  hperforms.mono hbound (Nat.le_refl _) (Nat.le_refl _) fun _ _ hvalue => hvalue

/-- A session performs what a session performs to which turns lead. -/
theorem Performs.of_turns {count : Nat} {events : List Event} (hturns : Turns count s s')
    (hleads : Leads s s' id scope events) (hperforms : s'.Performs id scope bound result holds) :
    s.Performs id scope (count + bound) (result.after events) holds := by
  cases result with
  | done value later =>
      obtain ⟨rest, s'', hrest, hturns', hleads', hvalue⟩ := hperforms
      exact ⟨count + rest, s'', by omega, hturns.trans hturns', hleads.trans hleads', hvalue⟩
  | failed error later =>
      obtain ⟨rest, r, s'', hrest, hturns', hlast, hevents⟩ := hperforms
      refine ⟨count + rest, r, s'', by omega, hturns.trans hturns', hlast, ?_⟩
      rw [hevents, hleads.events, List.append_assoc]
  | stuck => exact hperforms

theorem Performs.of_turn (hturn : s.turn = (.ok .again, s')) (hleads : Leads s s' id scope [])
    (hperforms : s'.Performs id scope bound result holds) :
    s.Performs id scope (bound + 1) result holds := by
  have hwhole := hperforms.of_turns (.single hturn) hleads
  rw [Interpreter.Result.after_nil, Nat.add_comm] at hwhole
  exact hwhole

/-- One run after another is performed by performing the one and then the other. -/
theorem Performs.andThen {more : Nat} {next : α → Interpreter.Result β}
    {holds' : β → Session → Prop} (hfirst : s.Performs id scope bound result holds)
    (hnext : ∀ count events value s', Turns count s s' → Leads s s' id scope events →
      holds value s' → s'.Performs id scope more (next value) holds') :
    s.Performs id scope (bound + more) (result.andThen next) holds' := by
  cases result with
  | done value events =>
      obtain ⟨count, s', hcount, hturns, hleads, hvalue⟩ := hfirst
      have hrest := (hnext count events value s' hturns hleads hvalue).of_turns hturns hleads
      exact hrest.of_le (by omega)
  | failed error events =>
      obtain ⟨count, r, s', hcount, hturns, hlast, hevents⟩ := hfirst
      exact ⟨count, r, s', by omega, hturns, hlast, hevents⟩
  | stuck => exact hfirst

/-- What is performed leaves alone what is below the flow. -/
theorem Performs.framed (hperforms : s.Performs id scope bound result holds) :
    s.Performs id scope bound result fun value s' => holds value s' ∧ SameBelow s s' id scope := by
  cases result with
  | done value events =>
      obtain ⟨count, s', hcount, hturns, hleads, hvalue⟩ := hperforms
      exact ⟨count, s', hcount, hturns, hleads, hvalue, hleads.below⟩
  | failed error events => exact hperforms
  | stuck => exact hperforms

theorem performs_of_failed {error : Error} (hturn : s.turn = (.error error, s'))
    (hevents : s'.events = s.events) : s.Performs id scope bound (.failed error []) holds :=
  ⟨0, s, s', Nat.zero_le _, .refl s, hturn, by rw [hevents, List.append_nil]⟩

end

/-! ## The places of a flow -/

/-- The innermost flow has nothing open, and the scope in which it opens its tasks holds a body. -/
structure Between (s : Session) (scope : ScopeId) (id : TaskId) (flow : Flow)
    (body : Interpreter.Body) : Prop where
  working : ∃ task, s.Working scope id task flow
  current : flow.current = none
  broke : flow.broke = body.broke
  state : (s.scope (s.around id flow)).state = body.state
  result : (s.scope (s.around id flow)).result = if flow.pass.isSome then body.result else .empty

/-- The innermost flow has a child open, which has left a patch in its scope so far. -/
structure Within (s : Session) (scope : ScopeId) (id : TaskId) (flow : Flow) (child : Child)
    (body : Interpreter.Body) (patch : Value) : Prop where
  working : ∃ task, s.Working scope id task flow
  current : flow.current = some child
  state : (s.scope (s.around id flow)).state = body.state
  result : (s.scope (s.around id flow)).result = if flow.pass.isSome then body.result else .empty
  left : (s.scope child.scope).result = patch

variable {flow : Flow} {body : Interpreter.Body}

theorem Between.atStep (hbetween : s.Between scope id flow body) {declared : FlowDecl}
    (hdeclared : Keyed.get? flow.definition s.repository.flows = some declared) :
    s.AtStep scope id flow (flow.nextStep declared.tasks) where
  working := hbetween.working
  current := hbetween.current
  next := ⟨declared, hdeclared, rfl⟩

/-- The place of a flow lasts while only its cursor changes. -/
theorem Between.changed (hbetween : s.Between scope id flow body) (hgrows : Grows s s')
    (hredirected : s'.redirectedTo = s.redirectedTo) (hactive : s'.active = s.active)
    (hscope : s'.scopeAt? (s.around id flow) = s.scopeAt? (s.around id flow))
    (change : Flow → Flow) {cursor : Nat} (hchange : change flow = { flow with cursor })
    (htask : s'.taskAt? id = (s.taskAt? id).map (Task.mapFlow change)) :
    s'.Between scope id { flow with cursor } body := by
  obtain ⟨task, hwork⟩ := hbetween.working
  have haround : s'.around id { flow with cursor } = s.around id flow :=
    around_congr rfl (hgrows.scopeOf hwork.here)
  have hsame := scope_congr hscope
  refine ⟨⟨_, hchange ▸ hwork.changed hgrows hredirected hactive change htask⟩,
    hbetween.current, hbetween.broke, ?_, ?_⟩
  · rw [haround, hsame, hbetween.state]
  · rw [haround, hsame, hbetween.result]

/-- The place of a flow with a child lasts while the scopes of the two are kept, except for what the
child leaves. -/
theorem Within.changed {flow' : Flow} {child : Child} {patch patch' : Value}
    (hwithin : s.Within scope id flow child body patch)
    (hworking : ∃ task, s'.Working scope id task flow') (hcurrent : flow'.current = flow.current)
    (hpass : flow'.pass = flow.pass) (hscopeOf : s'.scopeOf id = s.scopeOf id)
    (hscope : s'.scopeAt? (s.around id flow) = s.scopeAt? (s.around id flow))
    (hleft : (s'.scope child.scope).result = patch') :
    s'.Within scope id flow' child body patch' := by
  have haround := around_congr hpass hscopeOf
  have hsame := scope_congr hscope
  refine ⟨hworking, hcurrent.trans hwithin.current, ?_, ?_, hleft⟩
  · rw [haround, hsame, hwithin.state]
  · rw [haround, hsame, hwithin.result, hpass]

/-- A child is folded with the patch that it left. -/
theorem Within.fold {child : Child} {patch : Value}
    (hwithin : s.Within scope id flow child body patch) (hwired : s.Wired) :
    (s.foldChild id child).Between scope id { flow with current := none }
      (body.fold { patch, breaks := flow.broke }) := by
  obtain ⟨task, hwork⟩ := hwithin.working
  have hflow := hwork.flowAt?
  have hgrows : Grows s (s.foldChild id child) := (Grows.refl s).foldChild id child
  obtain ⟨hactive, -, -, hredirected, -⟩ := foldChild_others s id child
  have htask : (s.foldChild id child).taskAt? id =
      (s.taskAt? id).map (Task.mapFlow fun flow => { flow with current := none }) := by
    rw [foldChild_eq hflow, taskAt?_modifyFlow, if_pos rfl, taskAt?_closeScope,
      taskAt?_modifyScope]
  have haround : (s.foldChild id child).around id { flow with current := none } =
      s.around id flow := around_congr rfl (hgrows.scopeOf hwork.here)
  -- The scope of the child is another one than the scope around it, so the latter stays open.
  have hne : child.scope ≠ s.around id flow :=
    (ScopeId.ne_of_lt ((hwired.linked hflow).inside hwithin.current)).symm
  obtain ⟨found, hfound⟩ : ∃ found, s.scopeAt? (s.around id flow) = some found :=
    ⟨_, Array.getElem?_eq_getElem (Linked.around_lt hwired hflow)⟩
  have hfolded : (s.foldChild id child).scope (s.around id flow) =
      (if flow.pass.isSome then found.mergeResult patch else found).mergeState patch := by
    apply scope_eq_of_scopeAt?
    rw [foldChild_eq hflow, scopeAt?_modifyFlow, scopeAt?_closeScope_of_ne _ hne,
      scopeAt?_modifyScope_self, hfound, hwithin.left]
    rfl
  have hstate := hwithin.state
  have hresult := hwithin.result
  rw [scope_eq_of_scopeAt? hfound] at hstate hresult
  refine ⟨⟨_, hwork.changed hgrows hredirected hactive _ htask⟩, rfl, rfl, ?_, ?_⟩
  · rw [haround, hfolded]
    cases flow.pass <;> exact congrArg (Value.merge · patch) hstate
  · rw [haround, hfolded]
    cases hpass : flow.pass with
    | none =>
        rw [hpass] at hresult
        exact hresult
    | some pass =>
        rw [hpass] at hresult
        exact congrArg (Value.merge · patch) hresult

end Session

end Workflow
