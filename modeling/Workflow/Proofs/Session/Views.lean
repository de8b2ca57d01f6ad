import Workflow.Proofs.Session.Clicks

/-!
# What is shown and what can be reached

A screen shows every component whose preconditions pass, and a driver reaches a component by its
name, `Session.Reaches`.  The two agree exactly for the views whose name stands first for a
component that is shown too and is disabled or not as the view says.  They agree for all views where
no two components have one name.
-/

namespace Workflow

/-- What a list is made of by a step that may fail comes from the values of the list, and the step
fails for none of them. -/
theorem forall_of_mapM_eq_ok {ε α β : Type} {step : α → Except ε β} {values : List α}
    {results : List β} (hmap : values.mapM step = .ok results) :
    (∀ value ∈ values, ∃ result, step value = .ok result) ∧
      ∀ result ∈ results, ∃ value ∈ values, step value = .ok result := by
  induction values generalizing results with
  | nil =>
      cases hmap
      simp
  | cons first rest ih =>
      rw [List.mapM_cons] at hmap
      obtain ⟨result, hfirst, hmap⟩ := exists_of_bind_eq_ok hmap
      obtain ⟨others, hrest, hmap⟩ := exists_of_bind_eq_ok hmap
      cases hmap
      obtain ⟨hall, hfrom⟩ := ih hrest
      refine ⟨List.forall_mem_cons.mpr ⟨⟨result, hfirst⟩, hall⟩,
        List.forall_mem_cons.mpr ⟨⟨first, List.mem_cons_self, hfirst⟩, fun other hother => ?_⟩⟩
      obtain ⟨value, hmem, hstep⟩ := hfrom other hother
      exact ⟨value, List.mem_cons_of_mem first hmem, hstep⟩

/-- The view of a component has its name and says whether it is disabled. -/
theorem Component.of_view {component : Component} {judge : Judge} {view : Component.View}
    (hview : component.view judge = .ok view) :
    view.name = component.name ∧ component.isDisabled judge = .ok view.disabled := by
  unfold Component.view at hview
  obtain ⟨disabled, hdisabled, hview⟩ := exists_of_bind_eq_ok hview
  obtain ⟨display, -, hview⟩ := exists_of_bind_eq_ok hview
  cases hview
  exact ⟨rfl, hdisabled⟩

namespace Session

/-- The driver can act on what the view shows: under its name a component is shown, to be filled in
and to be clicked, and is refused as disabled exactly if the view says so. -/
structure Reaches (s : Session) (id : TaskId) (view : Component.View) : Prop where
  fillIn_shown : ∀ value task component,
    (s.fillIn id view.name value).1 ≠ .error (.notShown task component)
  click_shown : ∀ task component, (s.click id view.name).1 ≠ .error (.notShown task component)
  click_disabled_iff : (∃ component, (s.click id view.name).1 =
    .error (.disabledComponent component)) ↔ view.disabled = true

section

variable {s : Session} {id : TaskId} {name : String} {task : Task} {screen : Screen}
  {first : Component}

theorem fillIn_of_hidden (hopen : s.openScreen id = .ok (task, screen))
    (hnamed : screen.named? name = some first)
    (hhidden : first.isShown (s.taskJudge task) = .ok false) (value : Value) :
    (s.fillIn id name value).1 = .error (.notShown task.name name) := by
  rw [fillIn, hopen]
  simp only [bind, Except.bind, Screen.set, Screen.find_of_hidden task.name hnamed hhidden]

/-- The component of a name that is shown is not refused as one that is not. -/
theorem fillIn_of_shown (hopen : s.openScreen id = .ok (task, screen))
    (hnamed : screen.named? name = some first)
    (hshown : first.isShown (s.taskJudge task) = .ok true) {value : Value} {error : Error}
    (hfillIn : (s.fillIn id name value).1 = .error error) :
    error = .holdsNoValue first.name := by
  obtain ⟨place, hfind⟩ := Screen.find_of_shown task.name hnamed hshown
  rw [fillIn, hopen] at hfillIn
  simp only [bind, Except.bind, Screen.set, hfind, Component.set] at hfillIn
  by_cases hsettable : first.widget.isSettable = true
  · rw [if_pos hsettable] at hfillIn
    cases hfillIn
  · rw [if_neg hsettable] at hfillIn
    exact (Except.error.inj hfillIn).symm

/-- A click on the component of a name that is shown is refused if that is disabled. Otherwise it
fails only where the component cannot be clicked or because of a path or a pattern. -/
theorem Secure.click_of_shown (hsecure : s.Secure) (hopen : s.openScreen id = .ok (task, screen))
    (hnamed : screen.named? name = some first)
    (hshown : first.isShown (s.taskJudge task) = .ok true) {disabled : Bool}
    (hdisabled : first.isDisabled (s.taskJudge task) = .ok disabled) :
    (disabled = true ∧ (s.click id name).1 = .error (.disabledComponent first.name)) ∨
      (disabled = false ∧ ∀ error, (s.click id name).1 = .error error →
        error = .cannotBeClicked first.name ∨ error.ofRule = true) := by
  obtain ⟨place, hfind⟩ := Screen.find_of_shown task.name hnamed hshown
  have hrefused {error : Error} (hclick : (first.click (s.taskJudge task)).1 = .error error) :
      (s.click id name).1 = .error error := by
    rw [click, hopen]
    dsimp only
    rw [Screen.click, hfind]
    dsimp only
    rw [hclick]
  by_cases hclickable : first.widget.isClickable = true
  · cases disabled with
    | true =>
        left
        refine ⟨rfl, hrefused ?_⟩
        rw [Component.click, if_pos hclickable, hdisabled]
    | false =>
        right
        have hpresses : s.Presses id name task screen place first :=
          { found := hfind, clickable := hclickable, enabled := hdisabled, opened := hopen }
        exact ⟨rfl, fun error herror => .inr (hpresses.failsAs hsecure error herror)⟩
  · right
    have hnever := Component.isDisabled_of_not_clickable (s.taskJudge task)
      (Bool.eq_false_iff.mpr hclickable)
    have hclick : (s.click id name).1 = .error (.cannotBeClicked first.name) := by
      refine hrefused ?_
      rw [Component.click, if_neg hclickable]
    refine ⟨Except.ok.inj (hdisabled.symm.trans hnever), fun error herror => .inl ?_⟩
    exact (Except.error.inj (hclick.symm.trans herror)).symm

theorem Secure.click_disabled_iff_of_shown (hsecure : s.Secure)
    (hopen : s.openScreen id = .ok (task, screen)) (hnamed : screen.named? name = some first)
    (hshown : first.isShown (s.taskJudge task) = .ok true) {disabled : Bool}
    (hdisabled : first.isDisabled (s.taskJudge task) = .ok disabled) :
    (∃ component, (s.click id name).1 = .error (.disabledComponent component)) ↔
      disabled = true := by
  rcases hsecure.click_of_shown hopen hnamed hshown hdisabled with ⟨hon, hrefused⟩ | ⟨hoff, hfails⟩
  · exact iff_of_true ⟨first.name, hrefused⟩ hon
  · refine iff_of_false ?_ (Bool.eq_false_iff.mp hoff)
    rintro ⟨component, herror⟩
    rcases hfails _ herror with hsame | hrule
    · cases hsame
    · cases hrule

theorem Secure.reaches_of_shown (hsecure : s.Secure)
    (hopen : s.openScreen id = .ok (task, screen)) {view : Component.View}
    (hnamed : screen.named? view.name = some first)
    (hshown : first.isShown (s.taskJudge task) = .ok true)
    (hdisabled : first.isDisabled (s.taskJudge task) = .ok view.disabled) :
    s.Reaches id view where
  fillIn_shown := fun value other component hfillIn => by
    cases fillIn_of_shown hopen hnamed hshown hfillIn
  click_shown := fun other component herror => by
    rcases hsecure.click_of_shown hopen hnamed hshown hdisabled with ⟨-, hrefused⟩ | ⟨-, hfails⟩
    · rw [hrefused] at herror
      cases herror
    · rcases hfails _ herror with hsame | hrule
      · cases hsame
      · cases hrule
  click_disabled_iff := hsecure.click_disabled_iff_of_shown hopen hnamed hshown hdisabled

theorem exists_shown_of_components (hopen : s.openScreen id = .ok (task, screen))
    {views : List Component.View} (hviews : s.components id = .ok views) :
    ∃ shown, screen.shown (s.taskJudge task) = .ok shown ∧
      shown.mapM (fun component => component.view (s.taskJudge task)) = .ok views := by
  obtain ⟨htask, hactivity, -⟩ := openScreen_eq_ok hopen
  rw [components, screenTask_eq_ok_iff.mpr ⟨htask, hactivity⟩] at hviews
  exact exists_of_bind_eq_ok hviews

end

/-- A driver can act on what a view shows exactly if the first component of its name is shown and
is disabled or not as the view says; and it can act on every view where no two components of the
screen have one name. -/
theorem reaches_iff_first_shown {s : Session} (hdriven : s.Driven) {id : TaskId} {task : Task}
    {screen : Screen} (hopen : s.openScreen id = .ok (task, screen)) {views : List Component.View}
    (hviews : s.components id = .ok views) {view : Component.View} (hview : view ∈ views) :
    (s.Reaches id view ↔ ∃ first, screen.named? view.name = some first ∧
      first.isShown (s.taskJudge task) = .ok true ∧
      first.isDisabled (s.taskJudge task) = .ok view.disabled) ∧
    ((screen.components.map Component.name).Nodup → s.Reaches id view) := by
  obtain ⟨document, settings, ownsEvents, start, hstart, hdrives⟩ := hdriven
  have hsecure : s.Secure := hdrives.secure (start_secure hstart)
  obtain ⟨shown, hshown, hmap⟩ := exists_shown_of_components hopen hviews
  obtain ⟨hall, hfrom⟩ := forall_of_mapM_eq_ok hmap
  obtain ⟨component, hmem, hof⟩ := hfrom view hview
  obtain ⟨hname, hdisabled⟩ := Component.of_view hof
  obtain ⟨hplaced, hcomponent⟩ := (Screen.mem_shown_iff hshown).mp hmem
  refine ⟨⟨fun hreaches => ?_, ?_⟩, fun hdistinct => ?_⟩
  · obtain ⟨first, hnamed⟩ := Screen.exists_named? hplaced
    rw [← hname] at hnamed
    obtain ⟨hfirst, -⟩ := Screen.mem_of_named? hnamed
    obtain ⟨isShown, hjudged⟩ := (Screen.shownAmong_eq_ok_iff.mp hshown).1 first hfirst
    cases isShown with
    | false =>
        exact absurd (fillIn_of_hidden hopen hnamed hjudged .null)
          (hreaches.fillIn_shown .null task.name view.name)
    | true =>
        -- The first component has a view of its own, which tells whether a click is refused.
        obtain ⟨view', hof'⟩ := hall first ((Screen.mem_shown_iff hshown).mpr ⟨hfirst, hjudged⟩)
        obtain ⟨-, hdisabled'⟩ := Component.of_view hof'
        have hsame : view'.disabled = view.disabled := by
          rw [Bool.eq_iff_iff, ← hreaches.click_disabled_iff,
            hsecure.click_disabled_iff_of_shown hopen hnamed hjudged hdisabled']
        exact ⟨first, hnamed, hjudged, hsame ▸ hdisabled'⟩
  · rintro ⟨first, hnamed, hfirst, hfirst'⟩
    exact hsecure.reaches_of_shown hopen hnamed hfirst hfirst'
  · refine hsecure.reaches_of_shown hopen ?_ hcomponent hdisabled
    rw [hname]
    exact Screen.named?_of_mem hdistinct hplaced

/-- A document with a form on which a note is placed twice, the first time where it is never
shown. -/
def noteDocument : Document where
  repository :=
    { components := [
        ("note", { preconditions := [], validators := [], destination := some "$.note",
                   widget := .input "Note" false none }),
        ("send", { preconditions := [], validators := [], destination := none,
                   widget := .button "next" none "Send" .null ["never"] })]
      validators := [
        ("never", { rule := .equals, message := { template := "", sort := "error" },
                    passesWhen := true, subjectPath := none, expectedPath := none,
                    expected := .string "never" })]
      flows := [
        ("main", { tasks := [
                     { name := "form", preconditions := []
                       action := .screen [
                         [{ component := "note", destination := none
                            preconditions := some ["never"] }],
                         [{ component := "note", destination := none, preconditions := none },
                          { component := "send", destination := none, preconditions := none }]] }],
                   settings := {} })] }
  startingFlow := "main"
  context := .object []
  hash := none

def noteForm : Session :=
  (initial noteDocument {} true {}).pull.2

theorem noteForm_driven : noteForm.Driven :=
  Reachable.driven (reachable_carryOut [.pull] (by decide +kernel) rfl (by decide +kernel))

def noteScreen : Task × Screen :=
  (noteForm.openScreen ⟨1⟩).toOption.getD default

def noteView : Component.View where
  name := "note"
  sort := "input"
  value := some .null
  disabled := false
  errors := []
  display := .object [("input_type", .string "text"), ("label", .string "Note"),
    ("obscure", .bool false), ("value", .null)]

def sendView : Component.View where
  name := "send"
  sort := "button"
  value := some .null
  disabled := false
  errors := []
  display := .object [("action", .string "next"), ("style", .null), ("text", .string "Send")]

/-- Of what the form shows a driver can act on the button and not on the note. -/
theorem noteForm_reaches :
    noteForm.components ⟨1⟩ = .ok [noteView, sendView] ∧
      ¬ noteForm.Reaches ⟨1⟩ noteView ∧ noteForm.Reaches ⟨1⟩ sendView := by
  have hopen : noteForm.openScreen ⟨1⟩ = .ok (noteScreen.1, noteScreen.2) := by decide +kernel
  have hviews : noteForm.components ⟨1⟩ = .ok [noteView, sendView] := by decide +kernel
  let placed (place : Nat) : Component := (noteScreen.2.components[place]?).getD default
  have hnote : noteScreen.2.named? noteView.name = some (placed 0) ∧
      (placed 0).isShown (noteForm.taskJudge noteScreen.1) = .ok false := by decide +kernel
  have hsend : noteScreen.2.named? sendView.name = some (placed 2) ∧
      (placed 2).isShown (noteForm.taskJudge noteScreen.1) = .ok true ∧
      (placed 2).isDisabled (noteForm.taskJudge noteScreen.1) = .ok sendView.disabled := by
    decide +kernel
  refine ⟨hviews, fun hreaches => ?_, ?_⟩
  · obtain ⟨first, hnamed, hshown, -⟩ :=
      (reaches_iff_first_shown noteForm_driven hopen hviews List.mem_cons_self).1.mp hreaches
    have hfirst : placed 0 = first := Option.some.inj (hnote.1.symm.trans hnamed)
    rw [← hfirst, hnote.2] at hshown
    cases hshown
  · exact (reaches_iff_first_shown noteForm_driven hopen hviews
      (List.mem_cons_of_mem _ List.mem_cons_self)).1.mpr ⟨placed 2, hsend⟩

/-- A driver cannot act on all that is shown: the note that is shown cannot be filled in. -/
theorem shown_not_reached :
    ¬ ∀ (s : Session) (id : TaskId) task screen views, s.Driven →
      s.openScreen id = .ok (task, screen) → s.components id = .ok views →
      ∀ view ∈ views, s.Reaches id view := by
  intro hall
  have hopen : noteForm.openScreen ⟨1⟩ = .ok (noteScreen.1, noteScreen.2) := by decide +kernel
  have hviews : noteForm.components ⟨1⟩ = .ok [noteView, sendView] := by decide +kernel
  have hreaches := hall noteForm ⟨1⟩ _ _ _ noteForm_driven hopen hviews noteView
    List.mem_cons_self
  have hrefused : (noteForm.fillIn ⟨1⟩ "note" (.string "Ring twice.")).1 =
      .error (.notShown "form" "note") := by decide +kernel
  exact hreaches.fillIn_shown _ _ _ hrefused

end Session

end Workflow
