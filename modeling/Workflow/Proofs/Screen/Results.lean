import Mathlib.Control.Monad.Basic
import Workflow.Proofs.Screen.Shown
import Workflow.Proofs.Value.Branches

/-!
# The result of a screen

Where the values of a screen go to branches of their own, `Screen.Branching`, its result has each of
them in its place and nothing apart from them, whatever the values are and in whatever order the
components stand.  A value that is merged in later neither reaches what was merged in before it nor
meets it.
-/

namespace Workflow

/-- The text of a path through fields of the given names, at least one. -/
def Path.Through (text : String) (names : List String) : Prop :=
  Path.read text = .ok (Path.ofFields names) ∧ names ≠ []

namespace Path.Through

variable {text : String} {names others : List String}

theorem unique (hthrough : Path.Through text names) (hother : Path.Through text others) :
    names = others :=
  Path.ofFields_injective (Except.ok.inj (hthrough.1.symm.trans hother.1))

theorem apart {other : String} (hthrough : Path.Through text names)
    (hother : Path.Through other others) (hapart : Path.Apart names others) :
    ∀ names' others', Path.Through text names' → Path.Through other others' →
      Path.Apart names' others' := by
  intro names' others' hnames hothers
  rw [← hthrough.unique hnames, ← hother.unique hothers]
  exact hapart

theorem patchAt (hthrough : Path.Through text names) (value : Value) :
    value.patchAt text = .ok (value.under names) :=
  Value.patchAt_eq_ok_iff.mpr ⟨names, hthrough.1, rfl⟩

theorem valuesAt (hthrough : Path.Through text names) (tree : Value) :
    tree.valuesAt text = .ok (tree.lookup names).toList :=
  Value.valuesAt_of_read_ofFields hthrough.1 tree

end Path.Through

namespace Screen

/-- Values with their paths go to branches of their own: every path leads through fields, and no two
of them the same way or one beyond the other. -/
structure Branching (found : List (String × Value)) : Prop where
  through : ∀ pair ∈ found, ∃ names, Path.Through pair.1 names
  apart : found.Pairwise fun pair other => ∀ names others,
    Path.Through pair.1 names → Path.Through other.1 others → Path.Apart names others

namespace Branching

variable {first : String × Value} {rest found other : List (String × Value)}

theorem of_cons (hbranching : Branching (first :: rest)) : Branching rest where
  through := fun pair hmem => hbranching.through pair (List.mem_cons_of_mem first hmem)
  apart := (List.pairwise_cons.mp hbranching.apart).2

theorem perm (hbranching : Branching found) (hperm : found.Perm other) : Branching other where
  through := fun pair hmem => hbranching.through pair (hperm.mem_iff.mpr hmem)
  apart := by
    refine hperm.pairwise hbranching.apart ?_
    intro pair pair' hapart names others hnames hothers
    exact (hapart others names hothers hnames).symm

end Branching

theorem gather_cons {path : String} {names : List String} (hthrough : Path.Through path names)
    (tree value : Value) (rest : List (String × Value)) :
    gather tree ((path, value) :: rest) = gather (tree.merge (value.under names)) rest := by
  rw [gather, hthrough.patchAt value]

/-- Values that go to branches of their own, where nothing is yet, are all there in the end, and
everything apart from them is as before. The induction is on the values; what carries it is that
nothing is yet where those still to come will go. -/
theorem exists_gather {found : List (String × Value)} (hbranching : Branching found) (tree : Value)
    (hfree : ∀ pair ∈ found, ∀ names, Path.Through pair.1 names → tree.lookup names = none) :
    ∃ result, gather tree found = .ok result ∧
      (∀ pair ∈ found, ∀ names, Path.Through pair.1 names →
        result.lookup names = some pair.2) ∧
      ∀ others, (∀ pair ∈ found, ∀ names, Path.Through pair.1 names →
        Path.Apart names others) → result.lookup others = tree.lookup others := by
  induction found generalizing tree with
  | nil => exact ⟨tree, rfl, by simp, fun _ _ => rfl⟩
  | cons first rest ih =>
      obtain ⟨path, value⟩ := first
      obtain ⟨names, hnames⟩ := hbranching.through (path, value) List.mem_cons_self
      obtain ⟨hfirst, hrest⟩ := List.forall_mem_cons.mp hfree
      have hapart : ∀ pair ∈ rest, ∀ others, Path.Through pair.1 others →
          Path.Apart names others := fun pair hmem others hothers =>
        (List.pairwise_cons.mp hbranching.apart).1 pair hmem names others hnames hothers
      obtain ⟨result, hgather, hthere, hkept⟩ := ih hbranching.of_cons
        (tree.merge (value.under names)) fun pair hmem others hothers => by
          rw [Value.lookup_merge_under_of_apart value (hapart pair hmem others hothers)]
          exact hrest pair hmem others hothers
      refine ⟨result, ?_, ?_, ?_⟩
      · rw [gather_cons hnames, hgather]
      · refine List.forall_mem_cons.mpr ⟨fun others hothers => ?_, hthere⟩
        -- The first value is in its place at once, and the others leave it there.
        obtain rfl := hnames.unique hothers
        rw [hkept names fun pair hmem others hothers => (hapart pair hmem others hothers).symm]
        exact Value.lookup_merge_under value (hfirst names hnames)
      · intro others hothers
        obtain ⟨hnow, hlater⟩ := List.forall_mem_cons.mp hothers
        rw [hkept others hlater, Value.lookup_merge_under_of_apart value (hnow names hnames)]

/-- Values that go to branches of their own can be gathered in any order. -/
theorem gather_perm {found other : List (String × Value)} (hperm : found.Perm other)
    (hbranching : Branching found) (tree : Value) : gather tree found = gather tree other := by
  induction hperm generalizing tree with
  | nil => rfl
  | cons first _ ih =>
      obtain ⟨names, hnames⟩ := hbranching.through first List.mem_cons_self
      rw [gather_cons hnames, gather_cons hnames, ih hbranching.of_cons]
  | swap first second rest =>
      obtain ⟨names, hnames⟩ := hbranching.through second List.mem_cons_self
      obtain ⟨others, hothers⟩ :=
        hbranching.through first (List.mem_cons_of_mem second List.mem_cons_self)
      have hapart : Path.Apart names others :=
        (List.pairwise_cons.mp hbranching.apart).1 first List.mem_cons_self names others hnames
          hothers
      rw [gather_cons hnames, gather_cons hothers, gather_cons hothers, gather_cons hnames,
        Value.merge_under_comm tree second.2 first.2 hapart]
  | trans hfirst _ ih ih' => rw [ih hbranching, ih' (hbranching.perm hfirst)]

/-- A screen that can judge its components, and whose values go to branches of their own, has a
result. Every value is in its place, there is nothing apart from them, and the components could
stand in any order. -/
theorem result_has_every_value {screen : Screen} {judge : Judge} {shown : List Component}
    (hshown : screen.shown judge = .ok shown)
    (hbranching : Branching (shown.filterMap contribution?)) :
    ∃ result, screen.result judge = .ok result ∧
      (∀ component ∈ shown, component.widget.isButton = false → ∀ path value,
        component.destination = some path → component.value = some value →
          result.valuesAt path = .ok [value]) ∧
      (∀ names, names ≠ [] →
        (∀ pair ∈ shown.filterMap contribution?, ∀ others, Path.Through pair.1 others →
          Path.Apart others names) → Path.values (Path.ofFields names) result = []) ∧
      ∀ other : Screen, screen.components.Perm other.components →
        other.result judge = .ok result := by
  obtain ⟨result, hgather, hthere, hkept⟩ := exists_gather hbranching .empty
    fun pair hmem names hnames => Value.lookup_empty hnames.2
  have hresult : screen.result judge = .ok result := by
    rw [Screen.result, hshown]
    exact hgather
  refine ⟨result, hresult, ?_, ?_, ?_⟩
  · intro component hmem hbutton path value hpath hvalue
    have hfound : (path, value) ∈ shown.filterMap contribution? := by
      refine List.mem_filterMap.mpr ⟨component, hmem, ?_⟩
      rw [contribution?, hbutton, hpath, hvalue]
      rfl
    obtain ⟨names, hnames⟩ := hbranching.through _ hfound
    rw [hnames.valuesAt, hthere _ hfound names hnames]
    rfl
  · intro names hnames hapart
    rw [Path.values_ofFields, hkept names hapart, Value.lookup_empty hnames]
    rfl
  · intro other hperm
    obtain ⟨shown', hshown', hsame⟩ := exists_shown_perm hshown hperm
    rw [Screen.result, hshown', ← hgather,
      gather_perm (hsame.filterMap contribution?) hbranching]
    rfl

/-- An order: its lines, its owner and its due date, each in a branch of its own, and beside them a
button and a component that is not shown, which would get in their way. -/
def orderScreen : Screen where
  components :=
    [ { name := "lines", widget := .input "Lines" false none
        value := some (.list [.number (.int 1), .null])
        destination := some "$.order.lines", preconditions := [], validators := [], errors := [] },
      { name := "draft", widget := .input "Draft" false none, value := some (.string "none")
        destination := some "$.order.lines", preconditions := ["never"], validators := []
        errors := [] },
      { name := "owner", widget := .selection "Owner" true [] none
        value := some (.object [("name", .string "Ada")])
        destination := some "$.order.owner", preconditions := [], validators := [], errors := [] },
      { name := "due", widget := .dateTime "Due", value := some .null
        destination := some "due", preconditions := [], validators := [], errors := [] },
      { name := "next", widget := .button "next" none "Next" (.bool true) []
        value := some (.bool true)
        destination := some "$.order", preconditions := [], validators := [], errors := [] }]

/-- A judge with a validator that never passes. -/
def orderJudge : Judge where
  validators :=
    [("never", { rule := .equals, message := { template := "", sort := "error" }
                 passesWhen := true, subjectPath := none, expectedPath := none
                 expected := .bool true })]
  readPattern := default
  state := .empty

/-- The order has its lines, its owner and its due date, from the last component on as well, and
nothing under another name. -/
theorem orderScreen_result :
    ∃ result, orderScreen.result orderJudge = .ok result ∧
      result.valuesAt "$.order.lines" = .ok [.list [.number (.int 1), .null]] ∧
      result.valuesAt "$.order.owner" = .ok [.object [("name", .string "Ada")]] ∧
      result.valuesAt "due" = .ok [.null] ∧
      Path.values (Path.ofFields ["order", "total"]) result = [] ∧
      Screen.result ⟨orderScreen.components.reverse⟩ orderJudge = .ok result := by
  have hlines : Path.Through "$.order.lines" ["order", "lines"] :=
    ⟨by decide +kernel, List.cons_ne_nil _ _⟩
  have howner : Path.Through "$.order.owner" ["order", "owner"] :=
    ⟨by decide +kernel, List.cons_ne_nil _ _⟩
  have hdue : Path.Through "due" ["due"] := ⟨by decide +kernel, List.cons_ne_nil _ _⟩
  let shown := orderScreen.components.filter (·.shows orderJudge)
  have hshown : orderScreen.shown orderJudge = .ok shown := by decide +kernel
  have hfound : shown.filterMap contribution? =
      [("$.order.lines", .list [.number (.int 1), .null]),
        ("$.order.owner", .object [("name", .string "Ada")]), ("due", .null)] := by
    decide +kernel
  have hbranching : Branching (shown.filterMap contribution?) := by
    rw [hfound]
    constructor
    · simp only [List.forall_mem_cons]
      exact ⟨⟨_, hlines⟩, ⟨_, howner⟩, ⟨_, hdue⟩, by simp⟩
    · simp only [List.pairwise_cons, List.forall_mem_cons]
      exact ⟨⟨hlines.apart howner ⟨by decide, by decide⟩,
          hlines.apart hdue ⟨by decide, by decide⟩, by simp⟩,
        ⟨howner.apart hdue ⟨by decide, by decide⟩, by simp⟩, by simp⟩
  obtain ⟨result, hresult, hthere, hnone, hperm⟩ := result_has_every_value hshown hbranching
  refine ⟨result, hresult, ?_, ?_, ?_, ?_, hperm _ (List.reverse_perm _).symm⟩
  · exact hthere orderScreen.components[0] (by decide +kernel) rfl _ _ rfl rfl
  · exact hthere orderScreen.components[2] (by decide +kernel) rfl _ _ rfl rfl
  · exact hthere orderScreen.components[3] (by decide +kernel) rfl _ _ rfl rfl
  · refine hnone _ (List.cons_ne_nil _ _) ?_
    rw [hfound]
    simp only [List.forall_mem_cons]
    refine ⟨fun names hnames => ?_, fun names hnames => ?_, fun names hnames => ?_, by simp⟩
    · obtain rfl := hlines.unique hnames
      exact ⟨by decide, by decide⟩
    · obtain rfl := howner.unique hnames
      exact ⟨by decide, by decide⟩
    · obtain rfl := hdue.unique hnames
      exact ⟨by decide, by decide⟩

end Screen

end Workflow
