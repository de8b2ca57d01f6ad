import Mathlib.Data.List.Nodup
import Workflow.Proofs.Failures.Values
import Workflow.Screen

/-!
# What a screen shows

A screen shows the components whose preconditions pass, in their order, and tells so if it can judge
all of its components.  An operation on a name means the first component of that name,
`Screen.named?`, shown or not.  It is refused where that one is not shown, also if a later one of
the name is.
-/

namespace Workflow

namespace Component

/-- Whether the preconditions of the component are known to pass. -/
def shows (component : Component) (judge : Judge) : Bool :=
  match component.isShown judge with
  | .ok isShown => isShown
  | .error _ => false

theorem shows_eq_true_iff {component : Component} {judge : Judge} :
    component.shows judge = true ↔ component.isShown judge = .ok true := by
  unfold shows
  cases component.isShown judge with
  | error error => simp
  | ok isShown => simp

/-- What cannot be clicked has nothing that disables it. -/
theorem isDisabled_of_not_clickable {component : Component} (judge : Judge)
    (hclickable : component.widget.isClickable = false) :
    component.isDisabled judge = .ok false := by
  unfold isDisabled
  cases hwidget : component.widget with
  | button action style text value disabling =>
      rw [hwidget] at hclickable
      cases hclickable
  | _ => rfl

end Component

namespace Screen

variable {judge : Judge}

theorem shownAmong_eq_ok_iff {components shown : List Component} :
    shownAmong judge components = .ok shown ↔
      (∀ component ∈ components, ∃ isShown, component.isShown judge = .ok isShown) ∧
        shown = components.filter (·.shows judge) := by
  induction components generalizing shown with
  | nil =>
      rw [shownAmong, Except.ok.injEq]
      exact ⟨fun hshown => ⟨by simp, hshown.symm⟩, fun hall => hall.2.symm⟩
  | cons component rest ih =>
      rw [shownAmong, List.forall_mem_cons, List.filter_cons, Component.shows]
      cases hfirst : component.isShown judge with
      | error error => simp [bind, Except.bind]
      | ok isShown =>
          cases hrest : shownAmong judge rest with
          | error error =>
              have hnone : ¬ ∀ other ∈ rest, ∃ isShown, other.isShown judge = .ok isShown := by
                intro hall
                have hshown := ih.mpr ⟨hall, rfl⟩
                rw [hrest] at hshown
                cases hshown
              exact iff_of_false nofun fun hall => hnone hall.1.2
          | ok others =>
              obtain ⟨hall, rfl⟩ := ih.mp hrest
              rw [and_iff_right ⟨⟨isShown, rfl⟩, hall⟩]
              cases isShown <;>
                exact ⟨fun hshown => (Except.ok.inj hshown).symm, fun hsame => hsame ▸ rfl⟩

theorem mem_of_shownAmong {components shown : List Component}
    (hshown : shownAmong judge components = .ok shown) :
    ∀ component ∈ shown, component ∈ components := by
  obtain ⟨-, rfl⟩ := shownAmong_eq_ok_iff.mp hshown
  intro component hmem
  exact (List.mem_filter.mp hmem).1

variable {screen : Screen} {shown : List Component}

theorem mem_shown_iff (hshown : screen.shown judge = .ok shown) {component : Component} :
    component ∈ shown ↔
      component ∈ screen.components ∧ component.isShown judge = .ok true := by
  obtain ⟨-, rfl⟩ := shownAmong_eq_ok_iff.mp hshown
  rw [List.mem_filter, Component.shows_eq_true_iff]

/-- In another order a screen shows the same components in another order. -/
theorem exists_shown_perm {other : Screen} (hshown : screen.shown judge = .ok shown)
    (hperm : screen.components.Perm other.components) :
    ∃ shown', other.shown judge = .ok shown' ∧ shown.Perm shown' := by
  obtain ⟨hall, rfl⟩ := shownAmong_eq_ok_iff.mp hshown
  refine ⟨_, shownAmong_eq_ok_iff.mpr ⟨fun component hmem => ?_, rfl⟩, hperm.filter _⟩
  exact hall component (hperm.mem_iff.mpr hmem)

/-! ## By name -/

def named? (screen : Screen) (name : String) : Option Component :=
  screen.components.find? fun component => component.name == name

variable {task name : String} {component : Component}

theorem named?_eq_map_find? (screen : Screen) (name : String) :
    screen.named? name =
      (screen.components.zipIdx.find? fun pair => pair.1.name == name).map Prod.fst := by
  rw [named?, ← List.zipIdx_map_fst 0 screen.components, List.find?_map, List.zipIdx_map_fst]
  rfl

theorem named?_of_find {place : Nat}
    (hfind : screen.find task name judge = .ok (place, component)) :
    screen.named? name = some component := by
  unfold find at hfind
  split at hfind
  · cases hfind
  · next found _ hfound =>
      rw [named?_eq_map_find?, hfound]
      split at hfind <;> cases hfind
      rfl

theorem find_of_shown (task : String) (hnamed : screen.named? name = some component)
    (hshown : component.isShown judge = .ok true) :
    ∃ place, screen.find task name judge = .ok (place, component) := by
  rw [named?_eq_map_find?] at hnamed
  obtain ⟨⟨found, place⟩, hfound, rfl⟩ := Option.map_eq_some_iff.mp hnamed
  refine ⟨place, ?_⟩
  rw [find, hfound]
  dsimp only at hshown ⊢
  rw [hshown]

theorem find_of_hidden (task : String) (hnamed : screen.named? name = some component)
    (hhidden : component.isShown judge = .ok false) :
    screen.find task name judge = .error (.notShown task name) := by
  rw [named?_eq_map_find?] at hnamed
  obtain ⟨⟨found, place⟩, hfound, rfl⟩ := Option.map_eq_some_iff.mp hnamed
  rw [find, hfound]
  dsimp only at hhidden ⊢
  rw [hhidden]

theorem mem_of_named? (hnamed : screen.named? name = some component) :
    component ∈ screen.components ∧ component.name = name :=
  ⟨List.mem_of_find?_eq_some hnamed, by simpa using List.find?_some hnamed⟩

theorem exists_named? (hmem : component ∈ screen.components) :
    ∃ first, screen.named? component.name = some first := by
  refine Option.isSome_iff_exists.mp (List.find?_isSome.mpr ⟨component, hmem, ?_⟩)
  exact beq_self_eq_true component.name

/-- Where no two components have one name, each is the component of its name. -/
theorem named?_of_mem (hdistinct : (screen.components.map Component.name).Nodup)
    (hmem : component ∈ screen.components) : screen.named? component.name = some component := by
  obtain ⟨first, hfirst⟩ := exists_named? hmem
  obtain ⟨hmem', hname⟩ := mem_of_named? hfirst
  rw [hfirst, List.inj_on_of_nodup_map hdistinct hmem' hmem hname]

theorem eq_of_find {place : Nat} {found : Component}
    (hdistinct : (screen.components.map Component.name).Nodup)
    (hmem : component ∈ screen.components)
    (hfind : screen.find task component.name judge = .ok (place, found)) : found = component :=
  Option.some.inj ((named?_of_find hfind).symm.trans (named?_of_mem hdistinct hmem))

end Screen

end Workflow
