import Mathlib.Logic.Relation
import Mathlib.Tactic.Ring
import Workflow.Proofs.Interpreter.Basic
import Workflow.Session.Pull

/-!
# How deep flows nest, and how long they take

In a document whose flows do not refer back to themselves, a chain of nested flows meets every flow
at most once.  So no more flows are ever nested in each other than the document has, and a flow that
waits for nothing ends after a bounded number of turns.  The bound stays below the number of turns
that a pull may take.
-/

namespace Workflow

/-- Whether a task waits for nothing that the program around a session does. -/
def TaskAction.isUnattended : TaskAction → Bool
  | .update _ | .event _ | .flow _ _ => true
  | .remoteCall call => call.destination.isNone
  | .screen _ | .redirect _ => false

/-- Whether a task runs the flow that it is named after. -/
def TaskAction.isReference : TaskAction → Bool
  | .flow _ _ => true
  | _ => false

namespace Repository

/-- The flow `outer` declares a task that runs the flow `inner`. -/
def Refers (repository : Repository) (outer inner : String) : Prop :=
  ∃ declared, Keyed.get? outer repository.flows = some declared ∧
    ∃ decl ∈ declared.tasks, decl.name = inner ∧ decl.action.isReference = true

/-- No flow refers back to itself. -/
def Acyclic (repository : Repository) : Prop :=
  ∀ name, ¬Relation.TransGen repository.Refers name name

/-- No task of the flow, or of a flow that it comes to by its references, waits. -/
def Unattended (repository : Repository) (name : String) : Prop :=
  ∀ inner declared, Relation.ReflTransGen repository.Refers name inner →
    Keyed.get? inner repository.flows = some declared →
      ∀ decl ∈ declared.tasks, decl.action.isUnattended = true

/-- Nothing in the flow waits, and at most `depth` flows are nested in each other. -/
def UnattendedWithin (repository : Repository) : Nat → String → Prop
  | 0, _ => False
  | depth + 1, name =>
    ∀ declared, Keyed.get? name repository.flows = some declared →
      ∀ decl ∈ declared.tasks, decl.action.isUnattended = true ∧
        (repository.Refers name decl.name → Keyed.contains decl.name repository.flows = true →
          repository.UnattendedWithin depth decl.name)

variable {repository : Repository}

/-- Flows that refer to flows of lower rank only do not refer back to themselves. -/
theorem acyclic_of_rank (rank : String → Nat)
    (hrank : ∀ flow ∈ repository.flows, ∀ decl ∈ flow.2.tasks,
      decl.action.isReference = true → rank decl.name < rank flow.1) :
    repository.Acyclic := by
  have hstep : ∀ outer inner, repository.Refers outer inner → rank inner < rank outer := by
    rintro outer inner ⟨declared, hget, decl, hdecl, rfl, hreference⟩
    exact hrank _ (Keyed.mem_of_get? hget) decl hdecl hreference
  intro name hcycle
  have hlt : ∀ outer inner, Relation.TransGen repository.Refers outer inner →
      rank inner < rank outer := by
    intro outer inner hchain
    induction hchain with
    | single hrefers => exact hstep _ _ hrefers
    | tail _ hrefers ih => exact Nat.lt_trans (hstep _ _ hrefers) ih
  exact Nat.lt_irrefl _ (hlt name name hcycle)

theorem unattended_of_forall
    (hall : ∀ flow ∈ repository.flows, ∀ decl ∈ flow.2.tasks,
      decl.action.isUnattended = true) (name : String) : repository.Unattended name :=
  fun _ _ _ hget => hall _ (Keyed.mem_of_get? hget)

/-- There are no more different flows than are declared. -/
theorem length_le_of_nodup {names : List String} (hnodup : names.Nodup)
    (hdeclared : ∀ name ∈ names, Keyed.contains name repository.flows = true) :
    names.length ≤ repository.flows.length := by
  have hsubset : names ⊆ repository.flows.map Prod.fst := by
    intro name hmem
    obtain ⟨declared, hget⟩ := Option.isSome_iff_exists.mp (hdeclared name hmem)
    exact List.mem_map.mpr ⟨_, Keyed.mem_of_get? hget, rfl⟩
  have hlength := hnodup.length_le_of_subset hsubset
  rwa [List.length_map] at hlength

/-- The flows on a chain of references are different from each other. -/
theorem Acyclic.unattendedWithin_of_chain (hacyclic : repository.Acyclic) {name : String}
    (hunattended : repository.Unattended name) {chain : List String} (hnodup : chain.Nodup)
    (hdeclared : ∀ outer ∈ chain, Keyed.contains outer repository.flows = true)
    (hchain : ∀ outer ∈ chain, Relation.TransGen repository.Refers outer name)
    (hthere : Keyed.contains name repository.flows = true) {depth : Nat}
    (hdepth : repository.flows.length ≤ chain.length + depth) :
    repository.UnattendedWithin depth name := by
  have hnew : name ∉ chain := fun hmem => hacyclic name (hchain name hmem)
  have hnodup' : (name :: chain).Nodup := List.nodup_cons.mpr ⟨hnew, hnodup⟩
  have hdeclared' : ∀ outer ∈ name :: chain, Keyed.contains outer repository.flows = true := by
    intro outer hmem
    rcases List.mem_cons.mp hmem with rfl | hmem
    · exact hthere
    · exact hdeclared outer hmem
  induction depth generalizing name chain with
  | zero =>
      have hlength := length_le_of_nodup hnodup' hdeclared'
      rw [List.length_cons] at hlength
      omega
  | succ depth ih =>
      intro declared hget decl hdecl
      refine ⟨hunattended name declared .refl hget decl hdecl, fun hrefers hinner => ?_⟩
      have hchain' : ∀ outer ∈ name :: chain,
          Relation.TransGen repository.Refers outer decl.name := by
        intro outer hmem
        rcases List.mem_cons.mp hmem with rfl | hmem
        · exact .single hrefers
        · exact (hchain outer hmem).tail hrefers
      have hnew' : decl.name ∉ name :: chain := fun hmem => hacyclic _ (hchain' _ hmem)
      refine ih (fun inner declared hreach => hunattended inner declared (hreach.head hrefers))
        hnodup' hdeclared' hchain' hinner (by simp only [List.length_cons]; omega) hnew'
        (List.nodup_cons.mpr ⟨hnew', hnodup'⟩) ?_
      intro outer hmem
      rcases List.mem_cons.mp hmem with rfl | hmem
      · exact hinner
      · exact hdeclared' outer hmem

/-- No more flows are nested in each other than a repository has. -/
theorem Acyclic.unattendedWithin (hacyclic : repository.Acyclic) {name : String}
    (hunattended : repository.Unattended name)
    (hthere : Keyed.contains name repository.flows = true) :
    repository.UnattendedWithin repository.flows.length name := by
  apply hacyclic.unattendedWithin_of_chain hunattended List.nodup_nil
  · intro outer hmem
    cases hmem
  · intro outer hmem
    cases hmem
  · exact hthere
  · simp

/-! ## Turns -/

/-- The greatest number of tasks that a flow declares. -/
def maxTasks (repository : Repository) : Nat :=
  (repository.flows.map fun flow => flow.2.tasks.length).foldl max 0

theorem length_tasks_le {name : String} {declared : FlowDecl}
    (hget : Keyed.get? name repository.flows = some declared) :
    declared.tasks.length ≤ repository.maxTasks := by
  have hmem : declared.tasks.length ∈ repository.flows.map fun flow => flow.2.tasks.length :=
    List.mem_map.mpr ⟨_, Keyed.mem_of_get? hget, rfl⟩
  rw [maxTasks, List.foldl_max_eq_max (List.ne_nil_of_mem hmem)]
  exact Nat.le_trans (List.le_max_of_mem hmem) (Nat.le_max_right _ _)

/-- The turns that suffice for a flow with at most `depth` flows nested in each other: a task takes
four besides those of the flow it runs, a pass two besides those of its tasks, and publishing
one. -/
def turnBound (repository : Repository) (limit : Nat) : Nat → Nat
  | 0 => 0
  | depth + 1 =>
    (limit + 1) * (repository.maxTasks * (turnBound repository limit depth + 4) + 2) + 1

theorem turnBound_le (repository : Repository) (limit depth : Nat) :
    turnBound repository limit depth + 4 ≤
      4 * ((limit + 2) * (8 * repository.maxTasks + 8)) ^ depth := by
  induction depth with
  | zero => simp [turnBound]
  | succ depth ih =>
      generalize hpower : ((limit + 2) * (8 * repository.maxTasks + 8)) ^ depth = power at ih
      have hpositive : 1 ≤ power := by
        rw [← hpower]
        exact Nat.one_le_pow _ _ (Nat.mul_pos (by omega) (by omega))
      have htasks : repository.maxTasks * (turnBound repository limit depth + 4) ≤
          repository.maxTasks * (4 * power) := Nat.mul_le_mul_left _ ih
      rw [pow_succ, hpower, turnBound]
      calc (limit + 1) * (repository.maxTasks * (turnBound repository limit depth + 4) + 2) + 1 + 4
          ≤ (limit + 1) * (repository.maxTasks * (4 * power) + 2 * power) + 5 * power := by
            have hpass := Nat.mul_le_mul_left (limit + 1)
              (show repository.maxTasks * (turnBound repository limit depth + 4) + 2 ≤
                repository.maxTasks * (4 * power) + 2 * power by omega)
            omega
        _ = (4 * ((limit + 1) * repository.maxTasks) + 2 * limit + 7) * power := by ring
        _ ≤ (4 * ((limit + 2) * (8 * repository.maxTasks + 8))) * power := by
            apply Nat.mul_le_mul_right
            have hexpand : (limit + 2) * (8 * repository.maxTasks + 8) =
                8 * ((limit + 1) * repository.maxTasks) + 8 * repository.maxTasks + 8 * limit +
                  16 := by
              ring
            omega
        _ = 4 * (power * ((limit + 2) * (8 * repository.maxTasks + 8))) := by ring

end Repository

/-- A pull may take more turns than the flows of an unattended document do. -/
theorem Session.turnBound_lt_turnLimit (s : Session) :
    s.repository.turnBound s.settings.maxLoopPasses s.repository.flows.length + 1 <
      s.turnLimit := by
  have hbound := s.repository.turnBound_le s.settings.maxLoopPasses s.repository.flows.length
  have hbase : 16 ≤ (s.settings.maxLoopPasses + 2) * (8 * s.repository.maxTasks + 8) :=
    Nat.mul_le_mul (show 2 ≤ s.settings.maxLoopPasses + 2 by omega)
      (show 8 ≤ 8 * s.repository.maxTasks + 8 by omega)
  have hgrows := Nat.mul_le_mul_left
    (((s.settings.maxLoopPasses + 2) * (8 * s.repository.maxTasks + 8)) ^
      s.repository.flows.length) hbase
  have hlimit : ((s.settings.maxLoopPasses + 2) * (8 * s.repository.maxTasks + 8)) ^
      (s.repository.flows.length + 1) + 2 ^ 64 = s.turnLimit := rfl
  rw [pow_succ] at hlimit
  omega

end Workflow
