import Workflow.Proofs.Interpreter.Bounds
import Workflow.Proofs.Session.Isolation

/-!
# How deep the flows of a session are nested

Every flow being run but the root is named by a reference in the flow around it.  So the flows being
run are a chain of references, and where no flow refers back to itself there are no more of them
than the document has.
-/

namespace Workflow

namespace Repository

variable {repository : Repository}

theorem Builds.refers {decl : TaskDecl} {state : Value} {built : Flow} {name : String}
    {declared : FlowDecl} (hbuilds : repository.Builds decl state built)
    (hdeclared : Keyed.get? name repository.flows = some declared) (hmem : decl ∈ declared.tasks) :
    repository.Refers name built.definition ∧
      Keyed.contains built.definition repository.flows = true := by
  obtain ⟨repetition, inline, inner, haction, hinner, hstart⟩ := hbuilds
  rw [Session.Flow.start_eq hstart]
  refine ⟨⟨declared, hdeclared, decl, hmem, rfl, ?_⟩, ?_⟩
  · rw [haction]
    rfl
  · change Keyed.contains decl.name repository.flows = true
    rw [Keyed.contains, hinner]
    rfl

/-- The flow `name` and the flows `outer` around it are different from each other, and each of them
leads to `name` by references. -/
structure Chain (repository : Repository) (name : String) (outer : List String) : Prop where
  nodup : (name :: outer).Nodup
  declared : ∀ flow ∈ name :: outer, Keyed.contains flow repository.flows = true
  leads : ∀ flow ∈ outer, Relation.TransGen repository.Refers flow name

theorem chain_nil {name : String} (hthere : Keyed.contains name repository.flows = true) :
    repository.Chain name [] := by
  refine ⟨by simp, fun flow hmem => ?_, nofun⟩
  rw [List.mem_singleton.mp hmem]
  exact hthere

/-- One more reference makes a chain longer, as no flow refers back to itself. -/
theorem Chain.cons {name inner : String} {outer : List String}
    (hchain : repository.Chain name outer) (hacyclic : repository.Acyclic)
    (hrefers : repository.Refers name inner)
    (hthere : Keyed.contains inner repository.flows = true) :
    repository.Chain inner (name :: outer) := by
  have hleads : ∀ flow ∈ name :: outer, Relation.TransGen repository.Refers flow inner := by
    intro flow hmem
    rcases List.mem_cons.mp hmem with rfl | hmem
    · exact .single hrefers
    · exact (hchain.leads flow hmem).tail hrefers
  refine ⟨List.nodup_cons.mpr ⟨fun hmem => hacyclic inner (hleads inner hmem), hchain.nodup⟩, ?_,
    hleads⟩
  exact List.forall_mem_cons.mpr ⟨hthere, hchain.declared⟩

theorem Chain.length_lt {name : String} {outer : List String}
    (hchain : repository.Chain name outer) : outer.length < repository.flows.length :=
  length_le_of_nodup hchain.nodup hchain.declared

end Repository

namespace Session

variable {s : Session} {id : TaskId}

theorem Placed.contains_definition (hplaced : s.Placed) {flow : Flow}
    (hflow : s.flowAt? id = some flow) :
    Keyed.contains flow.definition s.repository.flows = true := by
  obtain ⟨tasks, ⟨declared, hdeclared, -⟩, -⟩ := hplaced.flows hflow
  rw [Keyed.contains, hdeclared]
  rfl

/-- The flows being run are a chain of references. -/
theorem Nested.exists_chain {scopes : List ScopeId} (hnested : s.Nested id scopes)
    (horderly : s.Orderly) (hacyclic : s.repository.Acyclic) (hrun : scopes <:+ s.active.toList) :
    ∃ flow outer, s.flowAt? id = some flow ∧ s.repository.Chain flow.definition outer ∧
      outer.length + 1 = scopes.length := by
  have hwired := horderly.wired
  have hplaced := horderly.accounted.placed
  induction hnested with
  | root =>
      obtain ⟨task, htask, hisFlow, -⟩ := hwired.rooted
      obtain ⟨flow, hruns⟩ := Option.isSome_iff_exists.mp hisFlow
      have hflow := flowAt?_eq_some_iff.mpr ⟨task, htask, hruns⟩
      exact ⟨flow, [], hflow, Repository.chain_nil (hplaced.contains_definition hflow), rfl⟩
  | @child id scopes task flow child inner houter htask _ hruns hcurrent hinner hisFlow ih =>
      have hrun' := (List.suffix_cons child.scope scopes).trans hrun
      obtain ⟨flow', outer, hflow, hchain, hlength⟩ := ih hrun'
      have hsame := flowAt?_eq_some_iff.mpr ⟨task, htask, hruns⟩
      rw [hflow] at hsame
      cases hsame
      obtain ⟨nested, hnests⟩ := Option.isSome_iff_exists.mp hisFlow
      have hnested := flowAt?_eq_some_iff.mpr ⟨inner, hinner, hnests⟩
      obtain ⟨declared, decl, built, hdeclared, hdecl, hbuilds, hskeleton⟩ :=
        (houter.running hwired hrun').built horderly.accounted.steady hflow hcurrent hnested
      obtain ⟨hrefers, hthere⟩ := hbuilds.refers hdeclared (List.mem_of_getElem? hdecl)
      refine ⟨nested, flow.definition :: outer, hnested, ?_,
        by rw [List.length_cons, hlength, List.length_cons]⟩
      rw [(Flow.of_skeleton hskeleton).1]
      exact hchain.cons hacyclic hrefers hthere

/-- No more flows are nested in each other than there are flows. -/
theorem Orderly.length_active_le (horderly : s.Orderly) (hacyclic : s.repository.Acyclic) :
    s.active.toList.length ≤ s.repository.flows.length := by
  rcases horderly.sound.nested with hempty | ⟨innermost, hnested⟩
  · rw [hempty]
    exact Nat.zero_le _
  · obtain ⟨flow, outer, -, hchain, hlength⟩ :=
      hnested.exists_chain horderly hacyclic List.suffix_rfl
    rw [← hlength]
    exact hchain.length_lt

end Session

end Workflow
