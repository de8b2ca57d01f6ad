import Mathlib.Data.List.Nodup
import Workflow.Proofs.Screen.Skeleton

/-!
# Pressing a component of a screen

A click on a name either presses the component of that name, `Screen.Presses`, or leaves the screen
as it is.  What the press of a button does to the state of the screen, `Component.stateAfterPress`,
is asked for by the effects of the press.  Where no two components have one name, the screen after a
press is told by the name alone, `Screen.pressed`.
-/

namespace Workflow

namespace Component

/-- The state after a press: a button merges its value into it at its destination, if it has
both. -/
def stateAfterPress (component : Component) (state : Value) : Value :=
  match component.widget, component.destination with
  | .button _ _ _ value _, some path =>
    if value.isNull then state
    else
      match value.patchAt path with
      | .ok patch => state.merge patch
      | .error _ => state
  | _, _ => state

/-- A button asks for its action, and before that for its value to be merged. -/
theorem press_button {component : Component} {action text : String} {style : Option String}
    {value : Value} {disabling : List String} {effects : List ClickEffect}
    (hbutton : component.widget = .button action style text value disabling)
    (hpress : component.press.1 = .ok effects) :
    (effects = [.action action] ∧ ∀ state, component.stateAfterPress state = state) ∨
      ∃ patch, effects = [.update patch, .action action] ∧
        ∀ state, component.stateAfterPress state = state.merge patch := by
  rw [press, hbutton] at hpress
  dsimp only at hpress
  unfold stateAfterPress
  rw [hbutton]
  cases hdestination : component.destination with
  | none =>
      rw [hdestination, buttonEffects] at hpress
      left
      exact ⟨(Except.ok.inj hpress).symm, fun _ => rfl⟩
  | some path =>
      rw [hdestination, buttonEffects] at hpress
      dsimp only at hpress ⊢
      by_cases hnull : value.isNull = true
      · rw [if_pos hnull] at hpress
        left
        exact ⟨(Except.ok.inj hpress).symm, fun _ => if_pos hnull⟩
      · rw [if_neg hnull] at hpress
        cases hpatch : value.patchAt path with
        | error error =>
            rw [hpatch] at hpress
            cases hpress
        | ok patch =>
            rw [hpatch] at hpress
            right
            exact ⟨patch, (Except.ok.inj hpress).symm, fun _ => if_neg hnull⟩

end Component

namespace Screen

/-- A click on a name presses the component: it is the one of that name, it is shown, and it can be
clicked and is not disabled. -/
structure Presses (screen : Screen) (task name : String) (judge : Judge) (place : Nat)
    (component : Component) : Prop where
  found : screen.find task name judge = .ok (place, component)
  clickable : component.widget.isClickable = true
  enabled : component.isDisabled judge = .ok false

variable {screen : Screen} {task name : String} {judge : Judge} {place : Nat}
  {component : Component}

theorem Presses.press_eq (hpresses : screen.Presses task name judge place component) :
    component.click judge = component.press := by
  rw [Component.click, if_pos hpresses.clickable, hpresses.enabled]

theorem Presses.click_eq (hpresses : screen.Presses task name judge place component) :
    screen.click task name judge = (component.press.1, screen.replace place component.press.2) := by
  rw [click, hpresses.found]
  dsimp only
  rw [hpresses.press_eq]

theorem Presses.skeleton (hpresses : screen.Presses task name judge place component) :
    (screen.replace place component.press.2).skeleton = screen.skeleton :=
  skeleton_replace (getElem?_of_find hpresses.found) component.skeleton_press

theorem replace_self (hplace : screen.components[place]? = some component) :
    screen.replace place component = screen := by
  obtain ⟨hlt, rfl⟩ := List.getElem?_eq_some_iff.mp hplace
  rw [replace, List.set_getElem_self]

/-- A click that presses nothing leaves the screen as it is. -/
theorem presses_or_refused (screen : Screen) (task name : String) (judge : Judge) :
    (∃ place component, screen.Presses task name judge place component) ∨
      ∃ error, screen.click task name judge = (.error error, screen) := by
  cases hfind : screen.find task name judge with
  | error error =>
      right
      exact ⟨error, by rw [click, hfind]⟩
  | ok found =>
      obtain ⟨place, component⟩ := found
      have hkept : screen.replace place component = screen := replace_self (getElem?_of_find hfind)
      have hrefused {error : Error} (hclick : component.click judge = (.error error, component)) :
          screen.click task name judge = (.error error, screen) := by
        rw [click, hfind]
        dsimp only
        rw [hclick, hkept]
      by_cases hclickable : component.widget.isClickable = true
      · cases hdisabled : component.isDisabled judge with
        | error error =>
            right
            refine ⟨error, hrefused ?_⟩
            rw [Component.click, if_pos hclickable, hdisabled]
        | ok disabled =>
            by_cases hon : disabled = true
            · right
              refine ⟨.disabledComponent component.name, hrefused ?_⟩
              rw [Component.click, if_pos hclickable, hdisabled, hon]
            · left
              refine ⟨place, component, hfind, hclickable, ?_⟩
              rw [hdisabled, Bool.eq_false_iff.mpr hon]
      · right
        refine ⟨.cannotBeClicked component.name, hrefused ?_⟩
        rw [Component.click, if_neg hclickable]

/-! ## Screens whose components have names of their own -/

/-- The components of a screen, that of a name pressed. -/
def pressed (screen : Screen) (name : String) : List Component :=
  screen.components.map fun component =>
    if component.name = name then component.press.2 else component

/-- Where no two components have one name, the component at a place is pressed by its name. -/
theorem replace_press_eq (hdistinct : (screen.components.map Component.name).Nodup)
    (hplace : screen.components[place]? = some component) :
    screen.replace place component.press.2 = ⟨screen.pressed component.name⟩ := by
  have hlt := (List.getElem?_eq_some_iff.mp hplace).1
  rw [replace, Screen.mk.injEq]
  apply List.ext_getElem?
  intro index
  rw [pressed, List.getElem?_set, List.getElem?_map]
  by_cases hindex : place = index
  · subst hindex
    rw [if_pos rfl, if_pos hlt, hplace, Option.map_some, if_pos rfl]
  · rw [if_neg hindex]
    cases hother : screen.components[index]? with
    | none => rfl
    | some other =>
        have hname : other.name ≠ component.name := by
          intro hsame
          refine hindex ((List.getElem?_inj (by simpa using hlt) hdistinct).mp ?_)
          rw [List.getElem?_map, List.getElem?_map, hplace, hother, Option.map_some,
            Option.map_some, hsame]
        rw [Option.map_some, if_neg hname]

theorem names_pressed (screen : Screen) (name : String) :
    (screen.pressed name).map Component.name = screen.components.map Component.name := by
  rw [pressed, List.map_map]
  apply List.map_congr_left
  intro component _
  rw [Function.comp_apply]
  split
  · exact (Component.of_skeleton component.skeleton_press).1
  · rfl

end Screen

end Workflow
