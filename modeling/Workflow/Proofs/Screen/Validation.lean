import Mathlib.Data.List.Nodup
import Workflow.Proofs.Failures.Values
import Workflow.Proofs.Screen.Skeleton

/-!
# The messages of a screen

Validating a screen gives every component that is shown the messages of those of its validators that
do not pass, `Component.complaints`, and takes away the messages of every other one.  If no two
components have one name, the messages of the screen are these and no others, and there are none
just if every component that is shown is valid.
-/

namespace Workflow

namespace Keyed

variable {α : Type}

/-- A new key is stored beside what is there. -/
theorem mem_insert_iff {pair : String × α} {key : String} {value : α} {table : List (String × α)}
    (hnew : ∀ stored ∈ table, stored.1 ≠ key) :
    pair ∈ insert key value table ↔ pair = (key, value) ∨ pair ∈ table := by
  induction table with
  | nil => simp [insert]
  | cons first rest ih =>
      obtain ⟨name, old⟩ := first
      obtain ⟨hfirst, hrest⟩ := List.forall_mem_cons.mp hnew
      unfold insert
      rw [if_neg (Ne.symm hfirst)]
      split
      · simp
      · simp only [List.mem_cons, ih hrest]
        exact or_left_comm

/-- Pairs with keys of their own are stored one beside the other. -/
theorem mem_foldl_insert {pair : String × α} {pairs table : List (String × α)}
    (hdistinct : (pairs.map Prod.fst).Nodup)
    (hnew : ∀ stored ∈ table, stored.1 ∉ pairs.map Prod.fst) :
    pair ∈ pairs.foldl (fun table pair => insert pair.1 pair.2 table) table ↔
      pair ∈ pairs ∨ pair ∈ table := by
  induction pairs generalizing table with
  | nil => simp
  | cons first rest ih =>
      obtain ⟨hfirst, hrest⟩ := List.nodup_cons.mp hdistinct
      have hinsert {other : String × α} :
          other ∈ insert first.1 first.2 table ↔ other = first ∨ other ∈ table := by
        apply mem_insert_iff
        intro stored hstored hsame
        exact hnew stored hstored (by simp [hsame])
      rw [List.foldl_cons, ih hrest, hinsert, List.mem_cons]
      · exact or_left_comm.trans or_assoc.symm
      · intro stored hstored
        rcases hinsert.mp hstored with rfl | hstored
        · exact hfirst
        · intro hmem
          exact hnew stored hstored (List.mem_cons_of_mem _ hmem)

theorem mem_ofList {pair : String × α} {pairs : List (String × α)}
    (hdistinct : (pairs.map Prod.fst).Nodup) : pair ∈ ofList pairs ↔ pair ∈ pairs := by
  rw [ofList, mem_foldl_insert hdistinct (by simp)]
  simp

end Keyed

/-! ## Components -/

namespace Judge

variable {judge : Judge} {value : Value} {names texts : List String}

/-- The messages are those of the validators that do not pass, and every validator can be told. -/
theorem failures_eq_ok (hfailures : judge.failures value names = .ok texts) :
    (names.filter fun name => judge.passes name value = .ok false).mapM judge.message =
      .ok texts := by
  induction names generalizing texts with
  | nil =>
      cases hfailures
      rfl
  | cons name rest ih =>
      obtain ⟨passes, hpasses, hothers⟩ := exists_of_bind_eq_ok hfailures
      cases passes with
      | true =>
          rw [List.filter_cons_of_neg (by simp [hpasses])]
          exact ih hothers
      | false =>
          obtain ⟨text, htext, hothers⟩ := exists_of_bind_eq_ok hothers
          obtain ⟨others, hrest, hresult⟩ := exists_of_bind_eq_ok hothers
          rw [List.filter_cons_of_pos (by simp [hpasses]), List.mapM_cons, htext, ih hrest]
          exact hresult

/-- There are no messages just if every validator passes. -/
theorem failures_eq_nil_iff :
    judge.failures value names = .ok [] ↔ ∀ name ∈ names, judge.passes name value = .ok true := by
  induction names with
  | nil => simp [failures]
  | cons name rest ih =>
      rw [List.forall_mem_cons, ← ih]
      constructor
      · intro hfailures
        obtain ⟨passes, hpasses, hothers⟩ := exists_of_bind_eq_ok hfailures
        cases passes with
        | true => exact ⟨hpasses, hothers⟩
        | false =>
            obtain ⟨text, -, hothers⟩ := exists_of_bind_eq_ok hothers
            obtain ⟨others, -, hresult⟩ := exists_of_bind_eq_ok hothers
            cases hresult
      · rintro ⟨hpasses, hothers⟩
        rw [failures, hpasses]
        exact hothers

end Judge

namespace Component

variable {component after : Component} {judge : Judge}

/-- Every validator of a component passes for its value. -/
def IsValid (component : Component) (judge : Judge) : Prop :=
  ∀ name ∈ component.validators, judge.passes name component.judged = .ok true

instance (component : Component) (judge : Judge) : Decidable (component.IsValid judge) :=
  inferInstanceAs (Decidable (∀ name ∈ component.validators,
    judge.passes name component.judged = .ok true))

/-- The messages of the validators of a component that do not pass, in the order in which the
validators are declared. -/
def complaints (component : Component) (judge : Judge) : Except Error (List String) :=
  (component.validators.filter fun name =>
    judge.passes name component.judged = .ok false).mapM judge.message

/-- Validating a component gives it its complaints. -/
theorem errors_validated (hvalidated : component.validated judge = .ok after) :
    component.complaints judge = .ok after.errors ∧
      (after.errors = [] ↔ component.IsValid judge) := by
  unfold validated at hvalidated
  cases hfailures : judge.failures component.judged component.validators with
  | error error =>
      rw [hfailures] at hvalidated
      cases hvalidated
  | ok texts =>
      rw [hfailures] at hvalidated
      cases hvalidated
      refine ⟨Judge.failures_eq_ok hfailures, ?_⟩
      rw [IsValid, ← Judge.failures_eq_nil_iff, hfailures]
      simp

end Component

namespace Screen

variable {judge : Judge}

/-- Every component that is shown is valid. -/
def AllValid (judge : Judge) (components : List Component) : Prop :=
  ∀ component ∈ components, component.isShown judge = .ok true → component.IsValid judge

instance (judge : Judge) (components : List Component) : Decidable (AllValid judge components) :=
  inferInstanceAs (Decidable (∀ component ∈ components, component.isShown judge = .ok true →
    component.IsValid judge))

/-- What a component of a validated screen has for messages. -/
theorem validateOne_cases {component after : Component}
    (hvalidate : validateOne judge component = .ok after) :
    (component.isShown judge = .ok true ∧ component.complaints judge = .ok after.errors ∧
      (after.errors = [] ↔ component.IsValid judge)) ∨
      (component.isShown judge = .ok false ∧ after.errors = []) := by
  unfold validateOne at hvalidate
  split at hvalidate
  · next hshown => exact .inl ⟨hshown, Component.errors_validated hvalidate⟩
  · next hhidden =>
      cases hvalidate
      exact .inr ⟨hhidden, rfl⟩
  · cases hvalidate

/-- Where validation comes to its end, every component has been validated. -/
theorem mem_validateAll_iff {components validated : List Component}
    (hvalidate : validateAll judge components = (.ok (), validated)) :
    (∀ component ∈ components, ∃ after, validateOne judge component = .ok after) ∧
      ∀ after, after ∈ validated ↔
        ∃ component ∈ components, validateOne judge component = .ok after := by
  induction components generalizing validated with
  | nil =>
      cases hvalidate
      simp
  | cons component rest ih =>
      rw [validateAll] at hvalidate
      split at hvalidate
      · cases hvalidate
      · next changed hchanged =>
          obtain ⟨hrest, rfl⟩ := Prod.mk.inj hvalidate
          obtain ⟨hall, hmem⟩ := ih (Prod.ext hrest rfl)
          refine ⟨List.forall_mem_cons.mpr ⟨⟨changed, hchanged⟩, hall⟩, ?_⟩
          intro after
          rw [List.mem_cons, hmem]
          simp [hchanged, eq_comm]

section

variable {screen validated : Screen} {valid : Bool}

/-- Where validation comes to its end, it tells whether there are messages. -/
theorem validate_eq_ok (hvalidate : screen.validate judge = (.ok valid, validated)) :
    validateAll judge screen.components = (.ok (), validated.components) ∧
      valid = validated.components.all fun component => component.errors.isEmpty := by
  unfold validate at hvalidate
  obtain ⟨hvalid, rfl⟩ := Prod.mk.inj hvalidate
  cases houtcome : (validateAll judge screen.components).1 with
  | error error =>
      rw [houtcome] at hvalid
      cases hvalid
  | ok _ =>
      rw [houtcome] at hvalid
      cases hvalid
      exact ⟨Prod.ext houtcome rfl, rfl⟩

/-- A screen is valid just if every component that is shown is. -/
theorem valid_iff (hvalidate : screen.validate judge = (.ok valid, validated)) :
    valid = true ↔ AllValid judge screen.components := by
  obtain ⟨hall, rfl⟩ := validate_eq_ok hvalidate
  obtain ⟨hvalidated, hmem⟩ := mem_validateAll_iff hall
  simp only [List.all_eq_true, List.isEmpty_iff]
  constructor
  · intro hempty component hcomponent hshown
    obtain ⟨after, hafter⟩ := hvalidated component hcomponent
    have hnone := hempty after ((hmem after).mpr ⟨component, hcomponent, hafter⟩)
    rcases validateOne_cases hafter with ⟨-, -, hiff⟩ | ⟨hhidden, -⟩
    · exact hiff.mp hnone
    · rw [hshown] at hhidden
      cases hhidden
  · intro hvalid after hafter
    obtain ⟨component, hcomponent, hone⟩ := (hmem after).mp hafter
    rcases validateOne_cases hone with ⟨hshown, -, hiff⟩ | ⟨-, hnone⟩
    · exact hiff.mpr (hvalid component hcomponent hshown)
    · exact hnone

/-- A valid screen has no messages. -/
theorem errors_of_valid (hvalidate : screen.validate judge = (.ok true, validated)) :
    validated.errors = [] := by
  obtain ⟨-, hvalid⟩ := validate_eq_ok hvalidate
  have hnone : (validated.components.filterMap fun component =>
      if component.errors.isEmpty then none else some (component.name, component.errors)) = [] := by
    rw [List.filterMap_eq_nil_iff]
    intro component hcomponent
    rw [if_pos (List.all_eq_true.mp hvalid.symm component hcomponent)]
  rw [errors, hnone]
  rfl

/-- The messages of a screen whose components have names of their own are those of its
components. -/
theorem mem_errors_iff (hdistinct : (screen.components.map Component.name).Nodup) {name : String}
    {messages : List String} :
    (name, messages) ∈ screen.errors ↔
      ∃ component ∈ screen.components, component.name = name ∧ component.errors = messages ∧
        messages ≠ [] := by
  have hkeys (components : List Component) :
      (components.filterMap fun component => if component.errors.isEmpty then none
        else some (component.name, component.errors)).map Prod.fst =
      (components.filter fun component => !component.errors.isEmpty).map Component.name := by
    induction components with
    | nil => rfl
    | cons component rest ih =>
        by_cases hnone : component.errors = []
        · simpa [List.filterMap_cons, hnone] using ih
        · simpa [List.filterMap_cons, hnone] using ih
  rw [errors, Keyed.mem_ofList, List.mem_filterMap]
  · constructor
    · rintro ⟨component, hcomponent, hsome⟩
      by_cases hnone : component.errors.isEmpty = true
      · rw [if_pos hnone] at hsome
        cases hsome
      · rw [if_neg hnone] at hsome
        cases hsome
        exact ⟨component, hcomponent, rfl, rfl, by simpa using hnone⟩
    · rintro ⟨component, hcomponent, rfl, rfl, hsome⟩
      exact ⟨component, hcomponent, if_neg (by simpa using hsome)⟩
  · rw [hkeys]
    exact hdistinct.sublist (List.filter_sublist.map Component.name)

/-- Validation keeps the names of the components. -/
theorem names_validate (screen : Screen) (judge : Judge) :
    (screen.validate judge).2.components.map Component.name =
      screen.components.map Component.name := by
  have hkept := congrArg (fun screen => screen.components.map Component.name)
    (screen.skeleton_validate judge)
  simpa [skeleton, List.map_map, Function.comp_def, Component.skeleton] using hkept

/-- A validated screen has the complaints of the components that are shown and not valid, and no
other messages. -/
theorem mem_errors_validate_iff (hdistinct : (screen.components.map Component.name).Nodup)
    (hvalidate : screen.validate judge = (.ok valid, validated)) {name : String}
    {messages : List String} :
    (name, messages) ∈ validated.errors ↔
      ∃ component ∈ screen.components, component.name = name ∧
        component.isShown judge = .ok true ∧ ¬component.IsValid judge ∧
        component.complaints judge = .ok messages := by
  have hnames : (validated.components.map Component.name).Nodup := by
    have hsame := screen.names_validate judge
    rw [hvalidate] at hsame
    exact hsame ▸ hdistinct
  obtain ⟨hvalidated, hmem⟩ := mem_validateAll_iff (validate_eq_ok hvalidate).1
  rw [mem_errors_iff hnames]
  constructor
  · rintro ⟨after, hafter, rfl, rfl, hsome⟩
    obtain ⟨component, hcomponent, hone⟩ := (hmem after).mp hafter
    have hname := (Component.of_skeleton (skeleton_validateOne hone)).1
    rcases validateOne_cases hone with ⟨hshown, hcomplaints, hiff⟩ | ⟨-, hnone⟩
    · exact ⟨component, hcomponent, hname.symm, hshown, fun hvalid => hsome (hiff.mpr hvalid),
        hcomplaints⟩
    · exact absurd hnone hsome
  · rintro ⟨component, hcomponent, rfl, hshown, hinvalid, hcomplaints⟩
    obtain ⟨after, hone⟩ := hvalidated component hcomponent
    have hname := (Component.of_skeleton (skeleton_validateOne hone)).1
    rcases validateOne_cases hone with ⟨-, hfound, hiff⟩ | ⟨hhidden, -⟩
    · have hmessages : after.errors = messages := by
        rw [hcomplaints] at hfound
        exact (Except.ok.inj hfound).symm
      refine ⟨after, (hmem after).mpr ⟨component, hcomponent, hone⟩, hname, hmessages, ?_⟩
      rw [← hmessages]
      exact fun hnone => hinvalid (hiff.mp hnone)
    · rw [hshown] at hhidden
      cases hhidden

end

end Screen

end Workflow
