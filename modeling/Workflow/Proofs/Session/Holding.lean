import Workflow.Proofs.Session.Positions

/-!
# Scopes that are open, and scopes that are held

A scope is open from the time at which it is there until it is released, `Session.Opened`.  The
flows being run hold scopes: each its own, that of its pass, and that of its child, `Session.held`.
This module says how the elementary steps of a session change the two, and which scopes going back
closes: all that the flows above the target hold, and what the target has open inside.
-/

namespace Workflow

/-- What a flow has open inside depends on its child and on its pass only. -/
theorem Flow.inside_congr {flow flow' : Flow} (hcurrent : flow'.current = flow.current)
    (hpass : flow'.pass = flow.pass) : flow'.inside = flow.inside := by
  rw [inside, inside, hcurrent, hpass]

theorem Flow.inside_interrupted (flow : Flow) : flow.interrupted.inside = flow.inside := by
  rw [inside, inside, interrupted]
  cases flow.current <;> rfl

theorem Flow.inside_concluded (flow : Flow) (mark : Bool) :
    (flow.concluded mark).inside = flow.inside := by
  cases mark <;> rfl

namespace Scope

/-- A change that does not decide whether a scope is open. -/
def KeepsRelease (change : Scope → Scope) : Prop :=
  ∀ scope, (change scope).released = scope.released

theorem keepsRelease_mergeState (patch : Value) : KeepsRelease (·.mergeState patch) :=
  fun _ => rfl

theorem keepsRelease_mergeResult (patch : Value) : KeepsRelease (·.mergeResult patch) :=
  fun _ => rfl

theorem KeepsRelease.comp {first second : Scope → Scope} (hfirst : KeepsRelease first)
    (hsecond : KeepsRelease second) : KeepsRelease fun scope => second (first scope) :=
  fun scope => (hsecond _).trans (hfirst scope)

end Scope

namespace Session

/-- The scope is there, and not released. -/
def Opened (s : Session) (scope : ScopeId) : Prop :=
  ∃ found, s.scopeAt? scope = some found ∧ found.released = false

def Released (s : Session) (scope : ScopeId) : Prop :=
  ∃ found, s.scopeAt? scope = some found ∧ found.released = true

instance (s : Session) (scope : ScopeId) : Decidable (s.Opened scope) :=
  decidable_of_iff ((s.scopeAt? scope).any fun found => !found.released)
    (by simp [Opened, Option.any_eq_true])

instance (s : Session) (scope : ScopeId) : Decidable (s.Released scope) :=
  decidable_of_iff ((s.scopeAt? scope).any Scope.released)
    (by simp [Released, Option.any_eq_true])

/-- The scopes that the flow running in a scope holds: what it has open inside, and that scope. -/
def heldBy (s : Session) (own : ScopeId) : List ScopeId :=
  (s.scope own).flow.elim [] s.insideOf ++ [own]

/-- The scopes that the flows being run hold. -/
def held (s : Session) : List ScopeId :=
  s.active.toList.flatMap s.heldBy

variable {s s' : Session}

/-! ## Open scopes -/

theorem opened_or_released {scope : ScopeId} {found : Scope}
    (hfound : s.scopeAt? scope = some found) : s.Opened scope ∨ s.Released scope := by
  cases hreleased : found.released with
  | false => exact .inl ⟨found, hfound, hreleased⟩
  | true => exact .inr ⟨found, hfound, hreleased⟩

theorem Released.not_opened {scope : ScopeId} (hreleased : s.Released scope) :
    ¬s.Opened scope := by
  rintro ⟨found, hfound, hopen⟩
  obtain ⟨found', hfound', hclosed⟩ := hreleased
  rw [hfound] at hfound'
  cases hfound'
  rw [hopen] at hclosed
  cases hclosed

theorem Opened.lt {scope : ScopeId} (hopened : s.Opened scope) :
    scope.index < s.scopes.size := by
  obtain ⟨found, hfound, -⟩ := hopened
  exact scopeAt?_lt hfound

theorem not_opened_nextScope (s : Session) : ¬s.Opened s.nextScope :=
  fun hopened => Nat.lt_irrefl _ hopened.lt

theorem opened_congr {scope : ScopeId} (hscope : s'.scopeAt? scope = s.scopeAt? scope) :
    s'.Opened scope ↔ s.Opened scope := by
  rw [Opened, Opened, hscope]

theorem opened_modifyScope (id : ScopeId) {change : Scope → Scope}
    (hchange : Scope.KeepsRelease change) (scope : ScopeId) :
    (s.modifyScope id change).Opened scope ↔ s.Opened scope := by
  simp only [Opened, scopeAt?_modifyScope]
  split_ifs
  · cases s.scopeAt? scope <;> simp [hchange _]
  · rfl

theorem opened_modifyFlow (id : TaskId) (change : Flow → Flow) (scope : ScopeId) :
    (s.modifyFlow id change).Opened scope ↔ s.Opened scope := Iff.rfl

theorem opened_closeAll (scopes : List ScopeId) (scope : ScopeId) :
    (s.closeAll scopes).Opened scope ↔ s.Opened scope ∧ scope ∉ scopes := by
  simp only [Opened, scopeAt?_closeAll]
  split_ifs with hmem
  · cases s.scopeAt? scope <;> simp [hmem, Scope.released_release]
  · simp [hmem]

theorem opened_closeScope (id scope : ScopeId) :
    (s.closeScope id).Opened scope ↔ s.Opened scope ∧ scope ≠ id := by
  have hsingle := opened_closeAll (s := s) [id] scope
  rwa [List.mem_singleton] at hsingle

theorem opened_openScope (state : Value) (parent : Option ScopeId) (scope : ScopeId) :
    (s.openScope state parent).Opened scope ↔ s.Opened scope ∨ scope = s.nextScope := by
  simp only [Opened, scopeAt?_openScope]
  split_ifs with hnext
  · simp [hnext, Scope.opened]
  · simp [hnext]

theorem opened_openTask (task : Task) (scope : ScopeId) :
    (s.openTask task).Opened scope ↔ s.Opened scope := by
  simp only [Opened, scopeAt?_openTask]
  split_ifs
  · cases s.scopeAt? scope <;> simp [Scope.bind]
  · rfl

/-! ## Held scopes -/

theorem flow_scope_eq (s : Session) (own : ScopeId) :
    (s.scope own).flow = (s.bindingAt? own).bind Scope.Binding.flow := by
  rw [scope_eq, bindingAt?]
  cases s.scopeAt? own <;> rfl

theorem heldBy_eq {id : TaskId} {own : ScopeId} (hbound : (s.scope own).flow = some id) :
    s.heldBy own = s.insideOf id ++ [own] := by
  rw [heldBy, hbound]
  rfl

theorem mem_heldBy_self (s : Session) (own : ScopeId) : own ∈ s.heldBy own :=
  List.mem_append_right _ List.mem_cons_self

/-- What a flow holds depends on the scope it runs in and on the flow only. -/
theorem heldBy_congr {id : TaskId} {own : ScopeId} (hbound : (s.scope own).flow = some id)
    (hbound' : (s'.scope own).flow = some id) (hflow : s'.flowAt? id = s.flowAt? id) :
    s'.heldBy own = s.heldBy own := by
  rw [heldBy_eq hbound, heldBy_eq hbound', insideOf, insideOf, hflow]

/-- What all flows hold depends on bindings and flows only. -/
theorem heldBy_of_same (hbindings : ∀ scope, s'.bindingAt? scope = s.bindingAt? scope)
    (hflows : ∀ id, s'.flowAt? id = s.flowAt? id) : s'.heldBy = s.heldBy := by
  funext own
  have hinside : s'.insideOf = s.insideOf := by
    funext id
    rw [insideOf, insideOf, hflows]
  rw [heldBy, heldBy, flow_scope_eq, flow_scope_eq, hbindings, hinside]

/-- What a flow around the innermost one holds lies no further in than the scope of the innermost
one. -/
theorem Nested.heldBy_outer {id : TaskId} {scopes : List ScopeId} (hnested : s.Nested id scopes)
    (hwired : s.Wired) : ∀ own ∈ scopes.tail, ∃ other, (s.scope own).flow = some other ∧
      other.index < id.index ∧ ∀ scope ∈ s.heldBy own, scope.index ≤ (s.scopeOf id).index := by
  induction hnested with
  | root => simp
  | @child id scopes task flow child inner houter htask hopen hflow hcurrent hinner hisFlow ih =>
      have hruns := flowAt?_eq_some_iff.mpr ⟨task, htask, hflow⟩
      obtain ⟨hscope, -, hid, hlt⟩ := hwired.child_places hruns hcurrent hinner
      obtain ⟨outer, rfl⟩ := houter.eq_cons hwired
      have hbound := houter.flow_scope hwired
      rw [scopeOf_eq_of_taskAt? hinner, hscope]
      intro own hmem
      rcases List.mem_cons.mp hmem with rfl | hmem
      · refine ⟨id, hbound, hid, fun scope hscope => ?_⟩
        rw [heldBy_eq hbound, insideOf_eq hruns] at hscope
        rcases List.mem_append.mp hscope with hinside | hown
        · rcases Flow.mem_inside.mp hinside with ⟨child', hcurrent', rfl⟩ | hpass
          · rw [hcurrent] at hcurrent'
            cases hcurrent'
            exact Nat.le_refl _
          · have hinside := (hwired.linked hruns).inside hcurrent
            rw [around_eq, hpass] at hinside
            exact Nat.le_of_lt hinside
        · rw [List.mem_singleton.mp hown]
          exact Nat.le_of_lt hlt
      · obtain ⟨other, hother, hbelow, hle⟩ := ih own hmem
        exact ⟨other, hother, Nat.lt_trans hbelow hid,
          fun scope hscope => Nat.le_of_lt (Nat.lt_of_le_of_lt (hle scope hscope) hlt)⟩

theorem Nested.le_of_mem_outer {id : TaskId} {scope other : ScopeId} {outer : List ScopeId}
    (hnested : s.Nested id (scope :: outer)) (hwired : s.Wired)
    (hother : other ∈ outer.flatMap s.heldBy) : other.index ≤ scope.index := by
  obtain ⟨own, hown, hmem⟩ := List.mem_flatMap.mp hother
  obtain ⟨-, -, -, hle⟩ := hnested.heldBy_outer hwired own hown
  rw [← hnested.scopeOf_eq hwired]
  exact hle other hmem

/-- What the flows around another one hold stays while nothing below that one changes. -/
theorem Nested.held_sameBelow {id : TaskId} {scope : ScopeId} {outer : List ScopeId}
    (hnested : s.Nested id (scope :: outer)) (hwired : s.Wired) (hsame : SameBelow s s' id scope) :
    outer.flatMap s'.heldBy = outer.flatMap s.heldBy := by
  have hlt := hnested.lt hwired
  rw [hnested.scopeOf_eq hwired] at hlt
  have hheld : ∀ own ∈ outer, s'.heldBy own = s.heldBy own := by
    intro own hmem
    obtain ⟨other, hbound, hbelow, -⟩ := hnested.heldBy_outer hwired own hmem
    have hscope : s'.scope own = s.scope own := scope_congr (hsame.scopes own (hlt own hmem))
    refine heldBy_congr hbound (hscope ▸ hbound) ?_
    rw [flowAt?, hsame.tasks other hbelow, flowAt?]
  rw [List.flatMap_def, List.flatMap_def, List.map_congr_left hheld]

/-! ## What going back closes -/

/-- Which scopes are closed does not depend on the flows being run. -/
theorem scopes_closeAll_congr (hscopes : s'.scopes = s.scopes) (htasks : s'.tasks = s.tasks)
    (hroot : s'.root = s.root) (scopes : List ScopeId) :
    (s'.closeAll scopes).scopes = (s.closeAll scopes).scopes := by
  induction scopes generalizing s s' with
  | nil => exact hscopes
  | cons scope scopes ih =>
      refine ih ?_ htasks hroot
      have hrootScope : s'.rootScope = s.rootScope := by
        rw [rootScope, rootScope, scopeOf, scopeOf, htasks, hroot]
      simp only [closeScope, modifyScope, hscopes, hrootScope]

/-- Abandoning a flow closes what it holds. -/
theorem abandon_eq (s : Session) (own : ScopeId) :
    s.abandon own = ({ s with active := s.active.pop } : Session).closeAll (s.heldBy own) := by
  have hsame : ({ s with active := s.active.pop } : Session).scope own = s.scope own := rfl
  unfold abandon heldBy
  dsimp only
  rw [hsame, closeAll_append]
  cases (s.scope own).flow with
  | none => rfl
  | some flow =>
      dsimp only
      rw [closeInside_eq]
      rfl

theorem heldBy_abandon (s : Session) (own : ScopeId) : (s.abandon own).heldBy = s.heldBy := by
  refine heldBy_of_same (fun scope => ?_) fun id => ?_
  · rw [abandon_eq, bindingAt?_closeAll]
    rfl
  · rw [flowAt?, taskAt?_abandon]
    rfl

/-- Unwinding to a flow closes what the flows above it hold. -/
theorem scopes_unwindTo {target : ScopeId} {above : List ScopeId} (outer : List ScopeId)
    (hnot : target ∉ above) (s : Session) :
    (unwindTo target (above ++ target :: outer) s).scopes =
      (s.closeAll (above.flatMap s.heldBy)).scopes := by
  induction above generalizing s with
  | nil =>
      rw [List.nil_append, unwindTo, if_pos rfl]
      rfl
  | cons own above ih =>
      rw [List.mem_cons, not_or] at hnot
      obtain ⟨hne, hnot⟩ := hnot
      rw [List.cons_append, unwindTo, if_neg (Ne.symm hne), ih hnot, heldBy_abandon, abandon_eq,
        ← closeAll_append, List.flatMap_cons]
      apply scopes_closeAll_congr <;> rfl

/-- The scopes that going back to a record closes. -/
def closedBy (s : Session) (above : List ScopeId) (entry : Visit) : List ScopeId :=
  above.flatMap s.heldBy ++ s.insideOf entry.flow

/-- Going back closes the scopes above and those inside the flow of the record. -/
theorem scopeAt?_reopened {target : ScopeId} {above outer : List ScopeId}
    (hactive : s.active.toList = above ++ target :: outer) (hnot : target ∉ above) (entry : Visit)
    (scope : ScopeId) (hne : target ≠ scope) :
    (s.reopened target entry).scopeAt? scope = (s.closeAll (s.closedBy above entry)).scopeAt? scope
    := by
  have hothers := unwindTo_others target s.active.toList s
  have hinside : (unwindTo target s.active.toList s).insideOf entry.flow =
      s.insideOf entry.flow := by
    rw [insideOf, flowAt?, taskAt?, hothers.1]
    rfl
  have hscopes := scopes_unwindTo outer hnot s
  rw [reopened, scopeAt?_modifyScope_of_ne _ _ hne, closeInside_eq, hinside, closedBy,
    closeAll_append, hactive]
  rw [hactive] at hothers
  have hclosed := closeAll_others s (above.flatMap s.heldBy)
  have hsame := scopes_closeAll_congr hscopes (hothers.1.trans hclosed.1.symm)
    (hothers.2.2.2.1.trans hclosed.2.2.2.1.symm) (s.insideOf entry.flow)
  rw [scopeAt?, hsame, scopeAt?]

/-- The scopes that were there are not touched by reopening a pass. -/
theorem scopeAt?_restore_of_lt (s : Session) (target : ScopeId) (entry : Visit) {scope : ScopeId}
    (hlt : scope.index < s.scopes.size) :
    (s.restore target entry).scopeAt? scope = (s.reopened target entry).scopeAt? scope := by
  have hsize : scope.index < (s.reopened target entry).scopes.size := by
    rwa [(reopened_others s target entry).2.2.2.2.2.2.2.2]
  have hsame : (s.restore target entry).scopeAt? scope =
      ((s.reopened target entry).reopenPass target entry.pass).2.scopeAt? scope := rfl
  rw [hsame, reopenPass.eq_def]
  cases entry.pass with
  | none => rfl
  | some trees =>
      have hne : scope ≠ (s.reopened target entry).nextScope := ScopeId.ne_of_lt hsize
      exact (scopeAt?_modifyScope_of_ne _ _ hne.symm).trans
        ((scopeAt?_openScope _ _ _ scope).trans (if_neg hne))

theorem nextScope_reopened (s : Session) (target : ScopeId) (entry : Visit) :
    (s.reopened target entry).nextScope = s.nextScope := by
  rw [nextScope, nextScope, (reopened_others s target entry).2.2.2.2.2.2.2.2]

/-- A record with a pass gets a new scope for it, with the trees that it had. -/
theorem passBack_eq (s : Session) (target : ScopeId) (entry : Visit) :
    s.passBack target entry = entry.pass.map fun _ => s.nextScope := by
  rw [passBack, reopenPass.eq_def]
  cases entry.pass with
  | none => rfl
  | some trees =>
      dsimp only
      rw [nextScope_reopened]
      rfl

theorem scopeAt?_restore_pass (s : Session) (target : ScopeId) {entry : Visit}
    {trees : Value × Value} (htrees : entry.pass = some trees) :
    (s.restore target entry).scopeAt? s.nextScope =
      some ((Scope.opened trees.1 (some target)).mergeResult trees.2) := by
  have hsame : (s.restore target entry).scopeAt? s.nextScope =
      ((s.reopened target entry).reopenPass target entry.pass).2.scopeAt? s.nextScope := rfl
  rw [hsame, htrees, reopenPass]
  dsimp only
  rw [nextScope_reopened, scopeAt?_modifyScope_self, scopeAt?_openScope, nextScope_reopened,
    if_pos rfl]
  rfl

theorem opened_reopenPass (s : Session) (target : ScopeId) (trees : Option (Value × Value))
    (scope : ScopeId) :
    (s.reopenPass target trees).2.Opened scope ↔
      s.Opened scope ∨ (s.reopenPass target trees).1 = some scope := by
  cases trees with
  | none => simp [reopenPass]
  | some trees =>
      have hopened : ((s.openScope trees.1 (some target)).modifyScope s.nextScope
          (·.mergeResult trees.2)).Opened scope ↔ s.Opened scope ∨ scope = s.nextScope := by
        rw [opened_modifyScope _ (Scope.keepsRelease_mergeResult trees.2), opened_openScope]
      rw [reopenPass, hopened, Option.some.injEq, eq_comm]

theorem opened_restore (s : Session) (target : ScopeId) (entry : Visit) (scope : ScopeId) :
    (s.restore target entry).Opened scope ↔
      (s.reopened target entry).Opened scope ∨ s.passBack target entry = some scope := by
  rw [passBack, ← opened_reopenPass]
  exact opened_congr rfl

/-- What the flows above the target hold lies further in than its scope. -/
theorem Nested.lt_of_mem_above {id : TaskId} {target scope : ScopeId}
    {above outer : List ScopeId} (hnested : s.Nested id (above ++ target :: outer))
    (hwired : s.Wired) (hscope : scope ∈ above.flatMap s.heldBy) : target.index < scope.index := by
  obtain ⟨own, hown, hmem⟩ := List.mem_flatMap.mp hscope
  obtain ⟨inner, rest, rfl⟩ := List.append_of_mem hown
  have hsuffix : own :: (rest ++ target :: outer) <:+ (inner ++ own :: rest) ++ target :: outer :=
    ⟨inner, by simp⟩
  obtain ⟨other, hother⟩ := hnested.of_suffix hsuffix
  have hplace := hother.scopeOf_eq hwired
  have hlt : target.index < own.index := by
    have hbelow := hother.lt hwired target (by simp)
    rwa [hplace] at hbelow
  rw [heldBy_eq (hother.flow_scope hwired)] at hmem
  rcases List.mem_append.mp hmem with hinside | hself
  · have hinner := hwired.lt_of_mem_insideOf hinside
    rw [hplace] at hinner
    exact Nat.lt_trans hlt hinner
  · rwa [List.mem_singleton.mp hself]

/-- Going back closes scopes that lie further in than the target. -/
theorem Nested.lt_of_mem_closedBy {id : TaskId} {target scope : ScopeId}
    {above outer : List ScopeId} {entry : Visit}
    (hnested : s.Nested id (above ++ target :: outer)) (hwired : s.Wired)
    (hflow : s.Nested entry.flow (target :: outer)) (hscope : scope ∈ s.closedBy above entry) :
    target.index < scope.index := by
  rcases List.mem_append.mp hscope with habove | hinside
  · exact hnested.lt_of_mem_above hwired habove
  · have hinner := hwired.lt_of_mem_insideOf hinside
    rwa [hflow.scopeOf_eq hwired] at hinner

theorem Nested.notMem_above {id : TaskId} {target : ScopeId} {above outer : List ScopeId}
    (hnested : s.Nested id (above ++ target :: outer)) (hwired : s.Wired) : target ∉ above := by
  intro hmem
  have hheld := List.mem_flatMap.mpr ⟨target, hmem, mem_heldBy_self s target⟩
  exact Nat.lt_irrefl _ (hnested.lt_of_mem_above hwired hheld)

/-- What is held after going back: the scope of the flow of the record, that of its pass, and what
the flows around it hold. -/
theorem Restored.held_eq {target : ScopeId} {outer : List ScopeId} {entry : Visit}
    (hrestored : Restored s (s.restore target entry) target entry outer) (hwired : s.Wired)
    (hnested : s.Nested entry.flow (target :: outer)) :
    (s.restore target entry).held =
      ((s.passBack target entry).toList ++ [target]) ++ outer.flatMap s.heldBy := by
  obtain ⟨task, htask, hisFlow⟩ := hnested.isFlow hwired
  obtain ⟨flow, hruns⟩ := Option.isSome_iff_exists.mp hisFlow
  have hflow' : (s.restore target entry).flowAt? entry.flow =
      some (flow.returnTo entry.mark (s.passBack target entry)) := by
    rw [flowAt?, taskAt?_restore, if_pos rfl, htask, Option.map_some, Option.bind_some,
      Task.flow?_mapFlow, hruns]
    rfl
  have hbound := (grows_restore s target entry).scope_flow (hnested.flow_scope hwired)
  rw [held, hrestored.active, List.flatMap_cons, hnested.held_sameBelow hwired hrestored.same,
    heldBy_eq hbound, insideOf_eq hflow']
  rfl

end Session

end Workflow
