import Workflow.Proofs.Session.History

/-!
# What the trees of a session have in common

All that ever happens to the trees of a scope is that patches are merged into them, that they are
put back to those of a record, and that they are emptied.  New scopes start from the state of an old
one, with nothing as their result.  So a property of the trees of a scope is one of all trees that a
session keeps, `Session.Keeps`, as long as it lasts while patches of some kind are merged,
`Lasting`, and the patches are of this kind.
-/

namespace Workflow

/-- A property `P` of a state and a result lasts if patches with the property `Q` are merged. -/
structure Lasting (P : Value → Value → Prop) (Q : Value → Prop) : Prop where
  empty : P .empty .empty
  opened : ∀ {state result}, P state result → P state .empty
  mergeState : ∀ {state result patch}, P state result → Q patch → P (state.merge patch) result
  mergeResult : ∀ {state result patch}, P state result → Q patch → P state (result.merge patch)
  /-- What a scope leaves is merged into the scope around it. -/
  left : ∀ {state result}, P state result → Q result
  /-- The item of a pass is merged into the state of the loop. -/
  object : ∀ fields, Q (.object fields)

variable {P : Value → Value → Prop} {Q : Value → Prop}

/-- The property holds of the trees of the scope. -/
def Scope.Has (P : Value → Value → Prop) (scope : Scope) : Prop :=
  P scope.state scope.result

theorem Lasting.release (hlasting : Lasting P Q) {scope : Scope} (hhas : scope.Has P)
    (keepsTrees : Bool) : (scope.release keepsTrees).Has P := by
  unfold Scope.release
  split_ifs
  · exact hhas
  · exact hhas
  · exact hlasting.empty

theorem Lasting.passStart (hlasting : Lasting P Q) (flow : Flow) {state result : Value}
    (hhas : P state result) : P (flow.passStart state) .empty := by
  have hopened := hlasting.opened hhas
  unfold Flow.passStart
  split
  · unfold Flow.withItem
    split
    · exact hlasting.mergeState hopened (hlasting.object _)
    · exact hlasting.mergeState hopened (hlasting.object _)
  · exact hopened

namespace Session

/-- The property holds of the trees of every scope and of every record. -/
structure Has (P : Value → Value → Prop) (s : Session) : Prop where
  scopes : ∀ {id scope}, s.scopeAt? id = some scope → scope.Has P
  visits : ∀ visit ∈ s.history.toList, P visit.state visit.result ∧
    ∀ trees, visit.pass = some trees → P trees.1 trees.2

/-- An effect changes a scope only if it is that of an update. -/
theorem effect_writes {s s' : Session} {task : Task} (heffect : s.effect task = .ok s') :
    (s'.scopes = s.scopes ∧ s'.history = s.history) ∨ ∃ instructions patch,
      task.activity = .update instructions ∧
        Instruction.chainedPatch instructions (s.stateOf task) = .ok patch ∧
        s' = s.modifyScope task.scope (·.mergeResult patch) := by
  unfold effect at heffect
  split at heffect
  · next instructions hactivity =>
      obtain ⟨patch, hpatch, hmerged⟩ := exists_of_map_eq_ok heffect
      exact .inr ⟨instructions, patch, hactivity, hpatch, hmerged.symm⟩
  · cases heffect
    exact .inl ⟨rfl, rfl⟩
  · split_ifs at heffect <;> cases heffect
    · left
      split <;> exact ⟨rfl, rfl⟩
    · exact .inl ⟨rfl, rfl⟩
  · cases heffect
    left
    split_ifs <;> exact ⟨rfl, rfl⟩
  · cases heffect
    exact .inl ⟨rfl, rfl⟩
  · cases heffect
    exact .inl ⟨rfl, rfl⟩

namespace Has

variable {s s' : Session}

theorem of_same (hhas : s.Has P) (hscopes : s'.scopes = s.scopes)
    (hhistory : s'.history = s.history) : s'.Has P where
  scopes := by
    intro id scope hscope
    rw [scopeAt?, hscopes] at hscope
    exact hhas.scopes hscope
  visits := hhistory ▸ hhas.visits

theorem modifyScope (hhas : s.Has P) (id : ScopeId) {change : Scope → Scope}
    (hchange : ∀ scope : Scope, scope.Has P → (change scope).Has P) :
    (s.modifyScope id change).Has P where
  scopes := by
    intro other scope hscope
    rw [scopeAt?_modifyScope] at hscope
    split_ifs at hscope
    · obtain ⟨old, hold, rfl⟩ := Option.map_eq_some_iff.mp hscope
      exact hchange old (hhas.scopes hold)
    · exact hhas.scopes hscope
  visits := hhas.visits

theorem openScope (hhas : s.Has P) {state : Value} (hstate : P state .empty)
    (parent : Option ScopeId) : (s.openScope state parent).Has P where
  scopes := by
    intro other scope hscope
    rw [scopeAt?_openScope] at hscope
    split_ifs at hscope
    · cases hscope
      exact hstate
    · exact hhas.scopes hscope
  visits := hhas.visits

theorem modifyFlow (hhas : s.Has P) (id : TaskId) (change : Flow → Flow) :
    (s.modifyFlow id change).Has P :=
  hhas.of_same rfl rfl

theorem openTask (hhas : s.Has P) (task : Task) : (s.openTask task).Has P := by
  have hadded : Session.Has P { s with tasks := s.tasks.push task } := hhas.of_same rfl rfl
  exact hadded.modifyScope task.scope fun _ hscope => hscope

theorem concluded (hhas : s.Has P) (id : TaskId) (mark : Bool) : (s.concluded id mark).Has P := by
  unfold Session.concluded
  split_ifs
  · exact hhas.modifyFlow id _
  · exact hhas

/-! ### Properties that last -/

section

variable (hlasting : Lasting P Q)
include hlasting

theorem scope (hhas : s.Has P) (id : ScopeId) : (s.scope id).Has P := by
  cases hscope : s.scopeAt? id with
  | none =>
      rw [scope_eq, hscope]
      exact hlasting.empty
  | some scope =>
      rw [scope_eq_of_scopeAt? hscope]
      exact hhas.scopes hscope

theorem closeScope (hhas : s.Has P) (id : ScopeId) : (s.closeScope id).Has P :=
  hhas.modifyScope id fun _ hscope => hlasting.release hscope _

theorem mergeResult (hhas : s.Has P) (id : ScopeId) {patch : Value} (hpatch : Q patch) :
    (s.modifyScope id (·.mergeResult patch)).Has P :=
  hhas.modifyScope id fun _ hscope => hlasting.mergeResult hscope hpatch

theorem mergeState (hhas : s.Has P) (id : ScopeId) {patch : Value} (hpatch : Q patch) :
    (s.modifyScope id (·.mergeState patch)).Has P :=
  hhas.modifyScope id fun _ hscope => hlasting.mergeState hscope hpatch

theorem mergeBoth (hhas : s.Has P) (id : ScopeId) {patch : Value} (hpatch : Q patch) :
    (s.modifyScope id fun scope => (scope.mergeResult patch).mergeState patch).Has P :=
  hhas.modifyScope id fun _ hscope =>
    hlasting.mergeState (hlasting.mergeResult hscope hpatch) hpatch

theorem attempt (hhas : s.Has P) (id : TaskId) (flow : Flow) : (s.attempt id flow).Has P :=
  (hhas.modifyFlow id _).openScope (hlasting.opened (hhas.scope hlasting _)) _

theorem openPass (hhas : s.Has P) (id : TaskId) (flow : Flow) : (s.openPass id flow).Has P := by
  have hstart := hlasting.passStart flow (hhas.scope hlasting (s.scopeOf id))
  exact (hhas.openScope hstart _).modifyFlow id _

theorem endPass (hhas : s.Has P) (id : TaskId) (pass : ScopeId) (snapshot : Value) :
    (s.endPass id pass snapshot).Has P := by
  have hleft := hlasting.left (hhas.scope hlasting pass)
  exact ((hhas.mergeState hlasting _ hleft).closeScope hlasting pass).modifyFlow id _

theorem foldChild (hhas : s.Has P) (id : TaskId) (child : Child) :
    (s.foldChild id child).Has P := by
  have hleft := hlasting.left (hhas.scope hlasting child.scope)
  unfold Session.foldChild
  dsimp only
  refine modifyFlow (closeScope hlasting ?_ _) id _
  split
  · exact hhas.mergeBoth hlasting _ hleft
  · exact hhas.mergeState hlasting _ hleft

theorem closeInside (hhas : s.Has P) (id : TaskId) : (s.closeInside id).Has P := by
  rw [closeInside_eq]
  generalize s.insideOf id = scopes
  induction scopes generalizing s with
  | nil => exact hhas
  | cons scope scopes ih => exact ih (hhas.closeScope hlasting scope)

theorem abandon (hhas : s.Has P) (scope : ScopeId) : (s.abandon scope).Has P := by
  have hleft : Session.Has P { s with active := s.active.pop } := hhas.of_same rfl rfl
  unfold Session.abandon
  dsimp only
  refine closeScope hlasting ?_ scope
  split
  · exact hleft.closeInside hlasting _
  · exact hleft

theorem unwindTo (target : ScopeId) (scopes : List ScopeId) :
    ∀ {s : Session}, s.Has P → (unwindTo target scopes s).Has P := by
  induction scopes with
  | nil => exact fun hhas => hhas
  | cons scope scopes ih =>
      intro s hhas
      unfold Session.unwindTo
      split_ifs
      · exact hhas
      · exact ih (hhas.abandon hlasting scope)

/-- A record keeps the trees of a scope, and those of the pass. -/
theorem remember {id : TaskId} {flow : Flow} {entry : Visit} (hhas : s.Has P)
    (hvalid : s.history.Valid) (hvisit : s.visitOf id = .ok (some (flow, entry))) :
    (s.remember flow entry).Has P where
  scopes := hhas.scopes
  visits := by
    have hpushed : (s.remember flow entry).history = s.history.push entry := rfl
    obtain ⟨task, owner, child, -, -, -, -, -, rfl⟩ := visitOf_eq_some hvisit
    intro visit hmem
    rw [hpushed, Cursor.toList_push hvalid] at hmem
    rcases List.mem_cons.mp hmem with rfl | hmem
    · refine ⟨hhas.scope hlasting _, fun trees htrees => ?_⟩
      obtain ⟨pass, -, rfl⟩ := Option.map_eq_some_iff.mp htrees
      exact hhas.scope hlasting pass
    · exact hhas.visits visit hmem

theorem reopenPass (hhas : s.Has P) (target : ScopeId) {pass : Option (Value × Value)}
    (hpass : ∀ trees, pass = some trees → P trees.1 trees.2) :
    (s.reopenPass target pass).2.Has P := by
  unfold Session.reopenPass
  split
  · exact hhas
  · next state result =>
      have htrees := hpass _ rfl
      exact (hhas.openScope (hlasting.opened htrees) _).mergeResult hlasting _
        (hlasting.left htrees)

theorem restore {entry : Visit} (hhas : s.Has P) (hvalid : s.history.Valid)
    (hhead : s.history.head? = some entry) (target : ScopeId) : (s.restore target entry).Has P where
  scopes := by
    intro id scope hscope
    rw [Cursor.head?_eq hvalid] at hhead
    obtain ⟨hentry, hpass⟩ := hhas.visits entry (List.mem_of_head? hhead)
    have hreopened : (s.reopened target entry).Has P :=
      ((hhas.unwindTo hlasting target _).closeInside hlasting _).modifyScope target
        fun _ _ => hentry
    exact (hreopened.reopenPass hlasting target hpass).scopes hscope
  visits := by
    rw [(restore_others s target entry).2.2.2.2.1, Cursor.toList_pop hvalid]
    exact fun visit hmem => hhas.visits visit (List.mem_of_mem_tail hmem)

/-- A turn that merges patches of the right kind keeps the property. -/
theorem turned {result : Except Error Turn} (hhas : s.Has P) (hturned : s.Turned result s')
    (hupdate : ∀ {id task instructions patch}, s.taskAt? id = some task →
      task.activity = .update instructions →
        Instruction.chainedPatch instructions (s.stateOf task) = .ok patch → Q patch)
    (hpublication : ∀ {id flow state value}, s.flowAt? id = some flow →
      flow.publication state = .ok value → Q value) : s'.Has P := by
  cases hturned with
  | idle | stuck | waiting => exact hhas
  | unbound | entered => exact hhas.of_same rfl rfl
  | left _ _ _ _ _ hleave =>
      have hleft : Session.Has P { s with active := s.active.pop } := hhas.of_same rfl rfl
      unfold leave at hleave
      dsimp only at hleave
      split_ifs at hleave
      · cases hleave
        exact hleft.closeScope hlasting _
      · cases hleave
        exact hleft
  | interrupted => exact hhas.modifyFlow _ _
  | @settled _ id _ child inner ran hat _ _ hrun =>
      have hran : ran.Has P := by
        unfold Session.runChild at hrun
        split_ifs at hrun
        · cases hrun
          exact hhas
        · split at hrun
          · next effected heffect =>
              cases hrun
              have heffected : effected.Has P := by
                rcases effect_writes heffect with ⟨hscopes, hhistory⟩ |
                  ⟨instructions, patch, hactivity, hpatch, rfl⟩
                · exact hhas.of_same hscopes hhistory
                · exact hhas.mergeResult hlasting _ (hupdate hat.inner hactivity hpatch)
              exact heffected.of_same rfl rfl
          · cases hrun
      exact hran.foldChild hlasting id child
  | dropped => exact (hhas.closeScope hlasting _).modifyFlow _ _
  | skipped | unopened => exact (hhas.attempt hlasting _ _).closeScope hlasting _
  | opened => exact ((hhas.attempt hlasting _ _).openTask _).modifyFlow _ _
  | @passOpened _ id flow => exact hhas.openPass hlasting id flow
  | passEnded => exact hhas.endPass hlasting _ _ _
  | @published _ id _ _ mark result hat _ hresult =>
      obtain ⟨task, hwork⟩ := hat.working
      have hmerged := (hhas.concluded id mark).mergeResult hlasting (s.scopeOf id)
        (hpublication hwork.flowAt? hresult)
      exact hmerged.of_same rfl rfl
  | unpublished => exact hhas.concluded _ true

end

end Has

end Session

end Workflow
