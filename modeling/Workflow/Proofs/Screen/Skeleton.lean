import Workflow.Screen

/-!
# What a screen keeps

Filling in, clicking and validating a screen change the values and the messages of its components.
What the components were declared as stays, `Screen.skeleton`.
-/

namespace Workflow

/-- What a component was declared as, without what it holds. -/
def Component.skeleton (component : Component) : Component :=
  { component with value := none, errors := [] }

theorem Component.of_skeleton {component other : Component}
    (h : other.skeleton = component.skeleton) :
    other.name = component.name ∧ other.widget = component.widget ∧
      other.destination = component.destination ∧
      other.preconditions = component.preconditions ∧ other.validators = component.validators := by
  simpa [Component.skeleton] using h

def Screen.skeleton (screen : Screen) : Screen :=
  ⟨screen.components.map Component.skeleton⟩

namespace Component

variable {component changed : Component} {judge : Judge}

theorem skeleton_set {value : Value} (hset : component.set value = .ok changed) :
    changed.skeleton = component.skeleton := by
  unfold set at hset
  split at hset
  · cases hset
    rfl
  · cases hset

theorem skeleton_press (component : Component) :
    component.press.2.skeleton = component.skeleton := by
  unfold press
  split <;> rfl

theorem skeleton_click (component : Component) (judge : Judge) :
    (component.click judge).2.skeleton = component.skeleton := by
  unfold click
  split
  · split
    · rfl
    · exact component.skeleton_press
    · rfl
  · rfl

theorem skeleton_validated (hvalidated : component.validated judge = .ok changed) :
    changed.skeleton = component.skeleton := by
  unfold validated at hvalidated
  cases hfailures : judge.failures component.judged component.validators with
  | error error =>
      rw [hfailures] at hvalidated
      cases hvalidated
  | ok errors =>
      rw [hfailures] at hvalidated
      cases hvalidated
      rfl

end Component

namespace Screen

variable {screen changed : Screen} {task name : String} {judge : Judge}

/-- What is found is a component of the screen, at its place. -/
theorem getElem?_of_find {place : Nat} {component : Component}
    (hfind : screen.find task name judge = .ok (place, component)) :
    screen.components[place]? = some component := by
  unfold find at hfind
  split at hfind
  · cases hfind
  · next found there hfound =>
      have hmem := List.mem_of_find?_eq_some hfound
      split at hfind
      · cases hfind
        exact (List.mk_mem_zipIdx_iff_getElem?).mp hmem
      all_goals cases hfind

theorem skeleton_replace {place : Nat} {component new : Component}
    (hplace : screen.components[place]? = some component)
    (hnew : new.skeleton = component.skeleton) :
    (screen.replace place new).skeleton = screen.skeleton := by
  obtain ⟨hlt, rfl⟩ := List.getElem?_eq_some_iff.mp hplace
  rw [skeleton, replace, skeleton, List.map_set, hnew, Screen.mk.injEq,
    ← List.getElem_map Component.skeleton (h := by simpa using hlt), List.set_getElem_self]

theorem skeleton_set {value : Value} (hset : screen.set task name value judge = .ok changed) :
    changed.skeleton = screen.skeleton := by
  unfold set at hset
  cases hfind : screen.find task name judge with
  | error error =>
      rw [hfind] at hset
      cases hset
  | ok found =>
      rw [hfind] at hset
      obtain ⟨place, component⟩ := found
      dsimp only [bind, Except.bind] at hset
      cases hchanged : component.set value with
      | error error =>
          rw [hchanged] at hset
          cases hset
      | ok new =>
          rw [hchanged] at hset
          cases hset
          exact skeleton_replace (getElem?_of_find hfind) (Component.skeleton_set hchanged)

theorem skeleton_click (screen : Screen) (task name : String) (judge : Judge) :
    (screen.click task name judge).2.skeleton = screen.skeleton := by
  unfold click
  cases hfind : screen.find task name judge with
  | error error => rfl
  | ok found =>
      obtain ⟨place, component⟩ := found
      exact skeleton_replace (getElem?_of_find hfind) (component.skeleton_click judge)

theorem skeleton_validateOne {component changed : Component}
    (hvalidate : validateOne judge component = .ok changed) :
    changed.skeleton = component.skeleton := by
  unfold validateOne at hvalidate
  split at hvalidate
  · exact Component.skeleton_validated hvalidate
  · cases hvalidate
    rfl
  · cases hvalidate

theorem skeleton_validateAll (judge : Judge) (components : List Component) :
    (validateAll judge components).2.map Component.skeleton =
      components.map Component.skeleton := by
  induction components with
  | nil => rfl
  | cons component rest ih =>
      rw [validateAll]
      split
      · rfl
      · next changed hvalidate =>
          rw [List.map_cons, List.map_cons, ih, skeleton_validateOne hvalidate]

theorem skeleton_validate (screen : Screen) (judge : Judge) :
    (screen.validate judge).2.skeleton = screen.skeleton := by
  rw [skeleton, skeleton, ← skeleton_validateAll judge screen.components]
  rfl

end Screen

end Workflow
