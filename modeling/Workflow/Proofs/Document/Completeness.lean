import Workflow.Component.Basic
import Workflow.Document.References

/-!
# What a sound document declares

`Document.fault?` looks for the first reference of a document that leads nowhere.  This module says
what it means that there is none: every name that stands for a validator, a component or a flow is
the name of one, wherever in the document it is written, `Repository.Complete`.
-/

namespace Workflow

namespace Repository

/-- Each of the names is that of a validator. -/
def Judges (repository : Repository) (names : List String) : Prop :=
  ∀ name ∈ names, Keyed.contains name repository.validators = true

structure CompleteComponent (repository : Repository) (component : ComponentDecl) : Prop where
  preconditions : repository.Judges component.preconditions
  validators : repository.Judges component.validators
  disabling : repository.Judges component.widget.disabling

structure CompletePlacement (repository : Repository) (placement : Placement) : Prop where
  component : Keyed.contains placement.component repository.components = true
  preconditions : repository.Judges (placement.preconditions.getD [])

/-- What the action of a task refers to is declared. A task that runs a flow names it. -/
def CompleteAction (repository : Repository) (name : String) : TaskAction → Prop
  | .screen rows => ∀ placement ∈ rows.flatten, repository.CompletePlacement placement
  | .flow _ inline => Keyed.contains name repository.flows = true ∧
      repository.Judges ((inline.map FlowSettings.conditions).getD [])
  | .remoteCall _ | .update _ | .redirect _ | .event _ => True

structure CompleteTask (repository : Repository) (task : TaskDecl) : Prop where
  preconditions : repository.Judges task.preconditions
  action : repository.CompleteAction task.name task.action

structure CompleteFlow (repository : Repository) (flow : FlowDecl) : Prop where
  conditions : repository.Judges flow.settings.conditions
  tasks : ∀ task ∈ flow.tasks, repository.CompleteTask task

/-- What the components and the flows refer to is declared. -/
structure Complete (repository : Repository) : Prop where
  components : ∀ pair ∈ repository.components, repository.CompleteComponent pair.2
  flows : ∀ pair ∈ repository.flows, repository.CompleteFlow pair.2

variable {repository : Repository} {owner name : String}

theorem missingValidator?_eq_none_iff {names : List String} :
    repository.missingValidator? owner names = none ↔ repository.Judges names := by
  rw [missingValidator?, Option.map_eq_none_iff, List.find?_eq_none, Judges]
  refine forall₂_congr fun name _ => ?_
  rw [Bool.not_eq_true, Bool.not_eq_false']

theorem missingFlow?_eq_none_iff :
    repository.missingFlow? owner name = none ↔ Keyed.contains name repository.flows = true := by
  unfold missingFlow?
  split
  · next hcontains => exact iff_of_true rfl hcontains
  · next hcontains => exact iff_of_false (by simp) hcontains

theorem componentFault?_eq_none_iff {component : ComponentDecl} :
    repository.componentFault? name component = none ↔
      repository.CompleteComponent component := by
  have hfault : repository.componentFault? name component =
      [component.preconditions, component.validators, component.widget.disabling].findSome?
        (repository.missingValidator? name) := by
    unfold componentFault?
    cases component.widget <;> rfl
  rw [hfault, List.findSome?_eq_none_iff]
  simp only [List.forall_mem_cons, missingValidator?_eq_none_iff]
  constructor
  · rintro ⟨hpreconditions, hvalidators, hdisables, -⟩
    exact ⟨hpreconditions, hvalidators, hdisables⟩
  · rintro ⟨hpreconditions, hvalidators, hdisables⟩
    exact ⟨hpreconditions, hvalidators, hdisables, by simp⟩

theorem placementFault?_eq_none_iff {placement : Placement} :
    repository.placementFault? owner placement = none ↔
      repository.CompletePlacement placement := by
  unfold placementFault?
  split
  · next hcontains =>
      rw [missingValidator?_eq_none_iff]
      exact ⟨fun hjudges => ⟨hcontains, hjudges⟩, fun hcomplete => hcomplete.preconditions⟩
  · next hcontains => exact iff_of_false (by simp) fun hcomplete => hcontains hcomplete.component

theorem taskFault?_eq_none_iff {task : TaskDecl} {flow : String} :
    repository.taskFault? flow task = none ↔ repository.CompleteTask task := by
  have hsplit : repository.CompleteTask task ↔ repository.Judges task.preconditions ∧
      repository.CompleteAction task.name task.action :=
    ⟨fun h => ⟨h.preconditions, h.action⟩, fun h => ⟨h.1, h.2⟩⟩
  rw [hsplit, taskFault?, Option.or_eq_none_iff, missingValidator?_eq_none_iff]
  refine and_congr_right fun _ => ?_
  cases task.action with
  | screen rows =>
      rw [List.findSome?_eq_none_iff]
      exact forall₂_congr fun _ _ => placementFault?_eq_none_iff
  | flow repetition inline =>
      rw [Option.or_eq_none_iff, missingFlow?_eq_none_iff, missingValidator?_eq_none_iff]
      rfl
  | _ => exact iff_of_true rfl trivial

theorem flowFault?_eq_none_iff {flow : FlowDecl} :
    repository.flowFault? name flow = none ↔ repository.CompleteFlow flow := by
  rw [flowFault?, Option.or_eq_none_iff, missingValidator?_eq_none_iff,
    List.findSome?_eq_none_iff]
  constructor
  · rintro ⟨hconditions, htasks⟩
    exact ⟨hconditions, fun task hmem => taskFault?_eq_none_iff.mp (htasks task hmem)⟩
  · rintro ⟨hconditions, htasks⟩
    exact ⟨hconditions, fun task hmem => taskFault?_eq_none_iff.mpr (htasks task hmem)⟩

end Repository

/-- A document has no fault if and only if its context is an object, its starting flow is declared,
and so is all that its components and flows refer to. -/
theorem Document.fault?_eq_none_iff {document : Document} :
    document.fault? = none ↔ document.context.isObject = true ∧
      Keyed.contains document.startingFlow document.repository.flows = true ∧
      document.repository.Complete := by
  have hsplit : document.repository.Complete ↔
      (∀ pair ∈ document.repository.components,
        document.repository.CompleteComponent pair.2) ∧
      ∀ pair ∈ document.repository.flows, document.repository.CompleteFlow pair.2 :=
    ⟨fun h => ⟨h.components, h.flows⟩, fun h => ⟨h.1, h.2⟩⟩
  unfold fault?
  dsimp only
  split
  · next hcontext => exact iff_of_false (by simp) fun h => by simp [h.1] at hcontext
  · next hcontext =>
      rw [Option.or_eq_none_iff, Option.or_eq_none_iff, Repository.missingFlow?_eq_none_iff,
        List.findSome?_eq_none_iff, List.findSome?_eq_none_iff, hsplit]
      refine (and_iff_right (by simpa using hcontext)).symm.trans
        (and_congr_right fun _ => and_congr_right fun _ => and_congr ?_ ?_)
      · exact forall₂_congr fun _ _ => Repository.componentFault?_eq_none_iff
      · exact forall₂_congr fun _ _ => Repository.flowFault?_eq_none_iff

end Workflow
