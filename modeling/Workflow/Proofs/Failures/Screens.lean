import Workflow.Proofs.Document.Completeness
import Workflow.Proofs.Failures.Values
import Workflow.Proofs.Screen.Shown
import Workflow.Proofs.Screen.Skeleton

/-!
# What judging and screens fail with

A validator that is declared fails only because of a path or of a pattern.  A screen that is built
in a complete repository names declared validators only, `Screen.Resolved`, and goes on doing so
whatever is filled in and clicked; so nothing done to it fails with a name that is not declared.
-/

namespace Workflow

open Error

variable {repository : Repository} {judge : Judge}

/-! ## Validators -/

namespace Judge

section

variable (hjudge : judge.validators = repository.validators)

include hjudge

/-- A declared validator is found. -/
theorem exists_validator {name : String}
    (hname : Keyed.contains name repository.validators = true) :
    ∃ decl, judge.validator name = .ok decl := by
  obtain ⟨decl, hdecl⟩ := Option.isSome_iff_exists.mp hname
  refine ⟨decl, ?_⟩
  rw [validator, hjudge, hdecl]

theorem failsAs_validator {name : String}
    (hname : Keyed.contains name repository.validators = true) :
    FailsAs ofRule (judge.validator name) := by
  obtain ⟨decl, hdecl⟩ := exists_validator hjudge hname
  rw [hdecl]
  exact .ok decl

omit hjudge in
theorem failsAs_valueOr (judge : Judge) (path : Option String) (given : Value) :
    FailsAs ofRule (judge.valueOr path given) := by
  cases path with
  | none => exact .ok given
  | some path => exact ((judge.state.failsAs_valueAt? path).mono ofRule_of_ofPath).map _

theorem failsAs_passes {name : String} (hname : Keyed.contains name repository.validators = true)
    (value : Value) : FailsAs ofRule (judge.passes name value) := by
  refine (failsAs_validator hjudge hname).bind fun decl _ => ?_
  refine (judge.failsAs_valueOr _ _).bind fun subject _ => ?_
  refine (judge.failsAs_valueOr _ _).bind fun expected _ => ?_
  exact (FailsAs.mapError (fun _ => rfl) _).bind fun _ _ => .ok _

theorem failsAs_allPass {names : List String} (hnames : repository.Judges names) (value : Value) :
    FailsAs ofRule (judge.allPass value names) := by
  induction names with
  | nil => exact .ok true
  | cons name rest ih =>
      obtain ⟨hname, hrest⟩ := List.forall_mem_cons.mp hnames
      rw [allPass]
      split
      · exact ih hrest
      · exact failsAs_passes hjudge hname value

theorem failsAs_anyPasses {names : List String} (hnames : repository.Judges names)
    (value : Value) : FailsAs ofRule (judge.anyPasses value names) := by
  induction names with
  | nil => exact .ok false
  | cons name rest ih =>
      obtain ⟨hname, hrest⟩ := List.forall_mem_cons.mp hnames
      rw [anyPasses]
      split
      · exact ih hrest
      · exact failsAs_passes hjudge hname value

theorem failsAs_message {name : String}
    (hname : Keyed.contains name repository.validators = true) :
    FailsAs ofRule (judge.message name) :=
  (failsAs_validator hjudge hname).bind fun _ _ =>
    (Template.failsAs_render _ judge.state).mono ofRule_of_ofPath

theorem failsAs_failures {names : List String} (hnames : repository.Judges names)
    (value : Value) : FailsAs ofRule (judge.failures value names) := by
  induction names with
  | nil => exact .ok []
  | cons name rest ih =>
      obtain ⟨hname, hrest⟩ := List.forall_mem_cons.mp hnames
      refine (failsAs_passes hjudge hname value).bind fun passes _ => ?_
      cases passes with
      | true => exact ih hrest
      | false =>
          refine (failsAs_message hjudge hname).bind fun text _ => ?_
          exact (ih hrest).bind fun _ _ => .ok _

end

end Judge

/-! ## Components -/

/-- The validators that a component names are declared. -/
structure Component.Resolved (repository : Repository) (component : Component) : Prop where
  preconditions : repository.Judges component.preconditions
  validators : repository.Judges component.validators
  disabling : repository.Judges component.widget.disabling

namespace Component

variable {component : Component}

theorem Resolved.of_skeleton {other : Component} (hresolved : component.Resolved repository)
    (hskeleton : other.skeleton = component.skeleton) : other.Resolved repository := by
  obtain ⟨-, hwidget, -, hpreconditions, hvalidators⟩ := Component.of_skeleton hskeleton
  exact ⟨hpreconditions ▸ hresolved.preconditions, hvalidators ▸ hresolved.validators,
    hwidget ▸ hresolved.disabling⟩

/-- A declared component is resolved wherever it is placed. -/
theorem resolved_ofDecl {decl : ComponentDecl} {placement : Placement}
    (hdecl : repository.CompleteComponent decl)
    (hplacement : repository.CompletePlacement placement) :
    (ofDecl decl placement).Resolved repository where
  preconditions := by
    have hplaced := hplacement.preconditions
    rw [ofDecl]
    cases hpreconditions : placement.preconditions with
    | none => exact hdecl.preconditions
    | some names =>
        rw [hpreconditions] at hplaced
        exact hplaced
  validators := hdecl.validators
  disabling := hdecl.disabling

theorem failsAs_set (component : Component) (value : Value) :
    FailsAs stopsInput (component.set value) := by
  unfold set
  split
  · exact .ok _
  · exact .error rfl

/-- A press that can be made fails only because its value cannot be written. -/
theorem failsAs_press (hclickable : component.widget.isClickable = true) :
    FailsAs ofPath component.press.1 := by
  unfold press
  split
  · exact .ok _
  · unfold buttonEffects
    split
    · split
      · exact .ok _
      · exact (Value.failsAs_patchAt _ _).map _
    · exact .ok _
  · next hnotToggle hnotButton =>
      unfold WidgetDecl.isClickable at hclickable
      split at hclickable
      · next hwidget => exact absurd hwidget (hnotToggle _ _ _)
      · next hwidget => exact absurd hwidget (hnotButton _ _ _ _ _)
      · cases hclickable

theorem failsAs_render (component : Component) (state : Value) :
    FailsAs ofPath (component.render state) := by
  unfold render
  dsimp only
  split
  case h_3 =>
    refine FailsAs.map ?_ _
    unfold optionsOf
    split
    · exact (state.failsAs_valueAt _).map _
    · exact .ok _
  case h_6 | h_7 => exact (Template.failsAs_render _ state).map _
  case h_9 => exact (state.failsAs_valueAt _).map _
  all_goals exact .ok _

section

variable (hjudge : judge.validators = repository.validators)
  (hresolved : component.Resolved repository)

include hjudge hresolved

theorem failsAs_isShown : FailsAs ofRule (component.isShown judge) :=
  Judge.failsAs_allPass hjudge hresolved.preconditions _

theorem failsAs_isDisabled : FailsAs ofRule (component.isDisabled judge) :=
  Judge.failsAs_anyPasses hjudge hresolved.disabling _

theorem failsAs_validated : FailsAs ofRule (component.validated judge) :=
  (Judge.failsAs_failures hjudge hresolved.validators _).map _

theorem failsAs_click : FailsAs stopsInput (component.click judge).1 := by
  unfold click
  split
  · next hclickable =>
      split
      · exact .error rfl
      · exact (failsAs_press hclickable).mono stopsInput_of_ofPath
      · next failure h =>
          exact .error (stopsInput_of_ofRule (failsAs_isDisabled hjudge hresolved failure h))
  · exact .error rfl

theorem failsAs_view : FailsAs ofRule (component.view judge) := by
  refine (failsAs_isDisabled hjudge hresolved).bind fun _ _ => ?_
  exact ((component.failsAs_render _).mono ofRule_of_ofPath).bind fun _ _ => .ok _

end

end Component

/-! ## Screens -/

def Screen.Resolved (repository : Repository) (screen : Screen) : Prop :=
  ∀ component ∈ screen.components, component.Resolved repository

namespace Screen

variable {screen : Screen} {task name : String}

/-- Whether a screen is resolved was settled when it was declared. -/
theorem Resolved.of_skeleton {other : Screen} (hresolved : screen.Resolved repository)
    (hskeleton : other.skeleton = screen.skeleton) : other.Resolved repository := by
  intro component hmem
  have hmapped : component.skeleton ∈ screen.skeleton.components := by
    rw [← hskeleton]
    exact List.mem_map_of_mem hmem
  obtain ⟨before, hbefore, hsame⟩ := List.mem_map.mp hmapped
  exact (hresolved before hbefore).of_skeleton hsame.symm

/-- A declared screen can be built, and then it is resolved. -/
theorem exists_build (hcomplete : repository.Complete) (screen : String)
    {placements : List Placement}
    (hplacements : ∀ placement ∈ placements, repository.CompletePlacement placement) :
    ∃ components, build repository screen placements = .ok components ∧
      ∀ component ∈ components, component.Resolved repository := by
  induction placements with
  | nil => exact ⟨[], rfl, by simp⟩
  | cons placement rest ih =>
      obtain ⟨hplacement, hrest⟩ := List.forall_mem_cons.mp hplacements
      obtain ⟨components, hbuild, hresolved⟩ := ih hrest
      obtain ⟨decl, hdecl⟩ := Option.isSome_iff_exists.mp hplacement.component
      refine ⟨Component.ofDecl decl placement :: components, ?_, ?_⟩
      · rw [build, hdecl, hbuild]
        rfl
      · have hfirst := Component.resolved_ofDecl
          (hcomplete.components _ (Keyed.mem_of_get? hdecl)) hplacement
        exact List.forall_mem_cons.mpr ⟨hfirst, hresolved⟩

theorem exists_ofRows (hcomplete : repository.Complete) (name : String)
    {rows : List (List Placement)}
    (hrows : ∀ placement ∈ rows.flatten, repository.CompletePlacement placement) :
    ∃ screen, ofRows repository name rows = .ok screen ∧ screen.Resolved repository := by
  obtain ⟨components, hbuild, hresolved⟩ := exists_build hcomplete name hrows
  refine ⟨⟨components⟩, ?_, hresolved⟩
  rw [ofRows, hbuild]
  rfl

section

variable (hjudge : judge.validators = repository.validators)

include hjudge

theorem failsAs_shownAmong {components : List Component}
    (hresolved : ∀ component ∈ components, component.Resolved repository) :
    FailsAs ofRule (shownAmong judge components) := by
  induction components with
  | nil => exact .ok []
  | cons component rest ih =>
      obtain ⟨hcomponent, hrest⟩ := List.forall_mem_cons.mp hresolved
      refine (Component.failsAs_isShown hjudge hcomponent).bind fun _ _ => ?_
      exact (ih hrest).bind fun _ _ => .ok _

theorem failsAs_validateOne {component : Component} (hresolved : component.Resolved repository) :
    FailsAs ofRule (validateOne judge component) := by
  unfold validateOne
  split
  · exact Component.failsAs_validated hjudge hresolved
  · exact .ok _
  · next failure h => exact .error (Component.failsAs_isShown hjudge hresolved failure h)

theorem failsAs_validateAll {components : List Component}
    (hresolved : ∀ component ∈ components, component.Resolved repository) :
    FailsAs ofRule (validateAll judge components).1 := by
  induction components with
  | nil => exact .ok ()
  | cons component rest ih =>
      obtain ⟨hcomponent, hrest⟩ := List.forall_mem_cons.mp hresolved
      rw [validateAll]
      split
      · next failure h => exact .error (failsAs_validateOne hjudge hcomponent failure h)
      · exact ih hrest

omit hjudge in
theorem failsAs_gather (result : Value) (values : List (String × Value)) :
    FailsAs ofPath (gather result values) := by
  induction values generalizing result with
  | nil => exact .ok result
  | cons pair rest ih =>
      obtain ⟨path, value⟩ := pair
      rw [gather]
      split
      · exact ih _
      · next failure h => exact .error (Value.failsAs_patchAt path value failure h)

variable (hresolved : screen.Resolved repository)

include hresolved

theorem failsAs_find : FailsAs stopsInput (screen.find task name judge) := by
  unfold find
  split
  · exact .error rfl
  · next component place hfound =>
      have hmem : component ∈ screen.components :=
        List.fst_mem_of_mem_zipIdx (List.mem_of_find?_eq_some hfound)
      split
      · exact .ok _
      · exact .error rfl
      · next failure h =>
          exact .error
            (stopsInput_of_ofRule (Component.failsAs_isShown hjudge (hresolved _ hmem) failure h))

theorem failsAs_set (value : Value) : FailsAs stopsInput (screen.set task name value judge) := by
  refine (failsAs_find hjudge hresolved).bind fun found _ => ?_
  exact (found.2.failsAs_set value).bind fun _ _ => .ok _

theorem failsAs_click : FailsAs stopsInput (screen.click task name judge).1 := by
  unfold click
  split
  · next failure h => exact .error (failsAs_find hjudge hresolved failure h)
  · next place component hfind =>
      exact Component.failsAs_click hjudge
        (hresolved component (List.mem_of_getElem? (getElem?_of_find hfind)))

theorem failsAs_validate : FailsAs ofRule (screen.validate judge).1 :=
  (failsAs_validateAll hjudge hresolved).map _

/-- Showing all that is shown on a screen. -/
theorem failsAs_views :
    FailsAs ofRule (screen.shown judge >>= fun shown => shown.mapM fun component =>
      component.view judge) := by
  refine (failsAs_shownAmong hjudge hresolved).bind fun shown hshown => ?_
  refine .mapM fun component hmem => ?_
  exact Component.failsAs_view hjudge (hresolved component (mem_of_shownAmong hshown _ hmem))

theorem failsAs_result : FailsAs ofRule (screen.result judge) :=
  (failsAs_shownAmong hjudge hresolved).bind fun _ _ =>
    (failsAs_gather _ _).mono ofRule_of_ofPath

end

end Screen

end Workflow
