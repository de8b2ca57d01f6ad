import Workflow.Proofs.Session.Trees
import Workflow.Proofs.Value.Merging

/-!
# Results

The result of a scope begins as an object without fields and is only ever merged into, so its fields
stand in order, `Session.Tidy`.  The same holds of the results that records keep.  So the pass that
is opened again for a record has the very result that the recorded pass had.
-/

namespace Workflow

/-- The result of the scope has its fields in order. -/
def Scope.Tidy (scope : Scope) : Prop :=
  Keyed.Sorted scope.result.fields

/-- The results that a record keeps have their fields in order. -/
def Visit.Tidy (visit : Visit) : Prop :=
  Keyed.Sorted visit.result.fields ∧
    ∀ trees, visit.pass = some trees → Keyed.Sorted trees.2.fields

/-- Results stay in order whatever is merged into them. -/
theorem lasting_sorted :
    Lasting (fun _ result => Keyed.Sorted result.fields) fun _ => True where
  empty := List.Pairwise.nil
  opened := fun _ => List.Pairwise.nil
  mergeState := fun hsorted _ => hsorted
  mergeResult := fun hsorted _ => Value.sorted_fields_merge hsorted _
  left := fun _ => trivial
  object := fun _ => trivial

namespace Session

/-- All results that a session keeps have their fields in order. -/
structure Tidy (s : Session) : Prop where
  scopes : ∀ {id scope}, s.scopeAt? id = some scope → scope.Tidy
  visits : ∀ visit ∈ s.history.toList, visit.Tidy

theorem tidy_iff_has {s : Session} :
    s.Tidy ↔ s.Has fun _ result => Keyed.Sorted result.fields :=
  ⟨fun htidy => ⟨htidy.scopes, htidy.visits⟩, fun hhas => ⟨hhas.scopes, hhas.visits⟩⟩

theorem Tidy.scope {s : Session} (htidy : s.Tidy) (id : ScopeId) : (s.scope id).Tidy :=
  (tidy_iff_has.mp htidy).scope lasting_sorted id

/-- A turn keeps results tidy. -/
theorem Turned.tidy {s s' : Session} {result : Except Error Turn} (hturned : s.Turned result s')
    (htidy : s.Tidy) : s'.Tidy := by
  rw [tidy_iff_has] at htidy ⊢
  exact htidy.turned lasting_sorted hturned (fun _ _ _ => trivial) fun _ _ => trivial

theorem Act.tidy {s s' : Session} {id : TaskId} (hact : Act id s s') (hsound : s.Sound)
    (htidy : s.Tidy) : s'.Tidy := by
  rw [tidy_iff_has] at htidy ⊢
  cases hact with
  | screenSet | completed | refused => exact htidy.of_same rfl rfl
  | resultMerged patch => exact htidy.mergeResult lasting_sorted _ trivial
  | patched patch => exact htidy.mergeBoth lasting_sorted _ trivial
  | recorded hvisit => exact htidy.remember lasting_sorted hsound.history hvisit
  | returned _ hhead =>
      exact (htidy.restore lasting_sorted hsound.history hhead _).of_same rfl rfl

theorem Moves.tidy {s s' : Session} (hmoves : Relation.ReflTransGen Move s s')
    (hsound : s.Sound) (htidy : s.Tidy) : s'.Tidy := by
  induction hmoves with
  | refl => exact htidy
  | tail hbefore hmove ih =>
      cases hmove with
      | turn hturn => exact (turned hturn).tidy ih
      | act hact => exact hact.tidy (Moves.sound hbefore hsound) ih
      | breakpoint name => exact ⟨ih.scopes, ih.visits⟩

theorem Reachable.tidy {s : Session} (hreach : s.Reachable) : s.Tidy := by
  obtain ⟨document, settings, ownsEvents, start, hstart, hrun⟩ := hreach
  obtain ⟨declared, -, rfl⟩ := start_eq hstart
  refine Moves.tidy hrun.moves (initial_sound document settings ownsEvents declared.settings)
    ⟨fun {id scope} hscope => ?_, by simp [initial]⟩
  obtain ⟨index⟩ := id
  cases index with
  | zero =>
      cases hscope
      exact List.Pairwise.nil
  | succ index => cases hscope

end Session

end Workflow
