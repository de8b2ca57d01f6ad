import Workflow.Instruction
import Workflow.Proofs.Value.Merging

/-!
# The fields of a tree

Names lead from the root of a tree through objects only, `Value.lookup`; a path of fields leads to
the same place.  What is written into an empty tree is written at such a path or not at all, and the
tree then has nothing else, `Value.under`.

A table in order is told by what is stored in it, and values under different keys can be stored in
either order.
-/

namespace Workflow

namespace Keyed

variable {α : Type}

theorem get?_of_mem {pair : String × α} {table : List (String × α)} (hsorted : Sorted table)
    (hmem : pair ∈ table) : get? pair.1 table = some pair.2 := by
  induction table with
  | nil => cases hmem
  | cons first rest ih =>
      obtain ⟨hbelow, hrest⟩ := List.pairwise_cons.mp hsorted
      rcases List.mem_cons.mp hmem with rfl | hmem
      · rw [get?_cons, if_pos rfl]
      · have hne : pair.1 ≠ first.1 := by
          intro hsame
          exact String.lt_irrefl _ (hsame ▸ hbelow pair hmem)
        rw [get?_cons, if_neg hne, ih hrest hmem]

/-- Two tables in order are one if the same values are stored in them. -/
theorem eq_of_get?_eq {table other : List (String × α)} (htable : Sorted table)
    (hother : Sorted other) (hget : ∀ key, get? key table = get? key other) : table = other := by
  have hmem {first second : List (String × α)} (hfirst : Sorted first)
      (hsame : ∀ key, get? key first = get? key second) : first ⊆ second := by
    intro pair hpair
    have hstored := get?_of_mem hfirst hpair
    rw [hsame] at hstored
    exact mem_of_get? hstored
  have hdistinct {first : List (String × α)} (hfirst : Sorted first) : first.Nodup := by
    refine hfirst.imp ?_
    rintro pair _ hlt rfl
    exact String.lt_irrefl _ hlt
  have hperm : table.Perm other := by
    rw [List.perm_ext_iff_of_nodup (hdistinct htable) (hdistinct hother)]
    intro pair
    constructor
    · intro hpair
      exact hmem htable hget hpair
    · intro hpair
      exact hmem hother (fun key => (hget key).symm) hpair
  refine hperm.eq_of_pairwise ?_ htable hother
  intro pair pair' _ _ hlt hlt'
  exact absurd hlt' (String.lt_asymm hlt)

/-- A value that is stored already can be stored again without a change. -/
theorem insert_of_get? {key : String} {value : α} {table : List (String × α)}
    (hsorted : Sorted table) (hget : get? key table = some value) :
    insert key value table = table := by
  apply eq_of_get?_eq (hsorted.insert key value) hsorted
  intro other
  rw [get?_insert]
  by_cases hother : other = key
  · rw [if_pos hother, hother, hget]
  · rw [if_neg hother]

/-- Of two values stored under one key the last stays. -/
theorem insert_insert (key : String) (old new : α) (table : List (String × α)) :
    insert key new (insert key old table) = insert key new table := by
  induction table with
  | nil => simp [insert]
  | cons first rest ih =>
      obtain ⟨name, value⟩ := first
      by_cases hkey : key = name
      · simp [insert, hkey]
      · by_cases hlt : key < name
        · simp [insert, hkey, hlt]
        · simp [insert, hkey, hlt, ih]

theorem insert_comm_of_lt {key other : String} (hlt : key < other) (value new : α)
    (table : List (String × α)) :
    insert key value (insert other new table) = insert other new (insert key value table) := by
  have hne : key ≠ other := by
    rintro rfl
    exact String.lt_irrefl _ hlt
  have hnot : ¬ other < key := String.lt_asymm hlt
  induction table with
  | nil => simp [insert, hlt, hne, hnot, Ne.symm hne]
  | cons first rest ih =>
      obtain ⟨name, old⟩ := first
      rcases Std.lt_trichotomy other name with hbelow | rfl | habove
      · have hkey : key < name := String.lt_trans hlt hbelow
        have hkey' : key ≠ name := by
          rintro rfl
          exact hnot hbelow
        have hother : other ≠ name := by
          rintro rfl
          exact String.lt_irrefl _ hbelow
        simp [insert, hlt, hne, hnot, Ne.symm hne, hbelow, hkey, hkey', hother]
      · simp [insert, hlt, hne, hnot, Ne.symm hne]
      · have hother : other ≠ name := by
          rintro rfl
          exact String.lt_irrefl _ habove
        have hother' : ¬ other < name := String.lt_asymm habove
        by_cases hname : key = name
        · subst hname
          simp [insert, hother, hother']
        · by_cases hkey : key < name
          · simp [insert, hother, hother', hname, hkey, Ne.symm hne, hnot]
          · simp [insert, hother, hother', hname, hkey, ih]

/-- Values under different keys can be stored in either order. -/
theorem insert_comm {key other : String} (hne : key ≠ other) (value new : α)
    (table : List (String × α)) :
    insert key value (insert other new table) = insert other new (insert key value table) := by
  rcases Std.lt_trichotomy key other with hlt | hsame | hlt
  · exact insert_comm_of_lt hlt value new table
  · exact absurd hsame hne
  · exact (insert_comm_of_lt hlt new value table).symm

end Keyed

def Path.ofFields (names : List String) : Path :=
  names.map .field

@[simp] theorem Path.ofFields_nil : Path.ofFields [] = [] := rfl

@[simp] theorem Path.ofFields_cons (name : String) (names : List String) :
    Path.ofFields (name :: names) = .field name :: Path.ofFields names := rfl

namespace Value

theorem isObject_of_field? {tree child : Value} {key : String}
    (hchild : tree.field? key = some child) : tree.isObject = true := by
  cases tree with
  | object fields => rfl
  | _ => cases hchild

/-- Objects with their fields in order are told by their fields. -/
theorem eq_of_field?_eq {tree other : Value} (htree : tree.isObject = true)
    (hother : other.isObject = true) (hsorted : Keyed.Sorted tree.fields)
    (hsorted' : Keyed.Sorted other.fields) (hfields : ∀ key, tree.field? key = other.field? key) :
    tree = other := by
  rw [← object_fields_of_isObject htree, ← object_fields_of_isObject hother,
    Keyed.eq_of_get?_eq hsorted hsorted' hfields]

/-- The value to which the names of fields lead, through objects only. -/
def lookup : List String → Value → Option Value
  | [], tree => some tree
  | name :: names, tree => (tree.field? name).bind (lookup names)

@[simp] theorem lookup_nil (tree : Value) : tree.lookup [] = some tree := rfl

theorem lookup_cons (name : String) (names : List String) (tree : Value) :
    tree.lookup (name :: names) = (tree.field? name).bind (lookup names) := rfl

/-- The tree that has nothing but the value, under the given names. -/
def under : List String → Value → Value
  | [], value => value
  | name :: names, value => .object [(name, under names value)]

@[simp] theorem under_nil (value : Value) : value.under [] = value := rfl

@[simp] theorem under_cons (name : String) (names : List String) (value : Value) :
    value.under (name :: names) = .object [(name, value.under names)] := rfl

/-- An induction over the fields of a tree: what holds of a tree if it holds of the values of its
fields holds of every tree. -/
theorem induction_on_fields {P : Value → Prop}
    (step : ∀ tree, (∀ key child, tree.field? key = some child → P child) → P tree)
    (tree : Value) : P tree := by
  apply step
  intro key child hchild
  have hmem : (key, child) ∈ tree.fields := Keyed.mem_of_get? hchild
  have hlt : sizeOf child < sizeOf tree := by
    cases tree with
    | object fields =>
        have hpair := List.sizeOf_lt_of_mem hmem
        simp only [fields_object, Prod.mk.sizeOf_spec, object.sizeOf_spec] at hpair ⊢
        omega
    | _ => cases hmem
  exact induction_on_fields step child
termination_by sizeOf tree

end Value

/-- A path of fields leads where its names lead. -/
theorem Path.values_ofFields (names : List String) (tree : Value) :
    Path.values (Path.ofFields names) tree = (tree.lookup names).toList := by
  induction names generalizing tree with
  | nil => rfl
  | cons name names ih =>
      rw [Path.ofFields_cons, Path.values, Value.lookup_cons]
      cases tree.field? name with
      | none => rfl
      | some child => exact ih child

theorem Value.valuesAt_of_read_ofFields {path : String} {names : List String}
    (hread : Path.read path = .ok (Path.ofFields names)) (tree : Value) :
    tree.valuesAt path = .ok (tree.lookup names).toList := by
  rw [valuesAt, hread, ← Path.values_ofFields]
  rfl

/-! ## Writing into nothing -/

theorem Path.write_null_eq_ok_iff {path : Path} {new tree : Value} :
    Path.write new path .null = .ok tree ↔
      ∃ names, path = Path.ofFields names ∧ tree = new.under names := by
  induction path generalizing tree with
  | nil =>
      constructor
      · intro hwrite
        cases hwrite
        exact ⟨[], rfl, rfl⟩
      · rintro ⟨names, hnames, rfl⟩
        cases names with
        | nil => rfl
        | cons name names => cases hnames
  | cons segment rest ih =>
      cases segment with
      | field name =>
          rw [Path.write]
          constructor
          · intro hwrite
            cases hchild : Path.write new rest .null with
            | error fault =>
                rw [hchild] at hwrite
                cases hwrite
            | ok child =>
                rw [hchild] at hwrite
                cases hwrite
                obtain ⟨names, rfl, rfl⟩ := ih.mp hchild
                exact ⟨name :: names, rfl, rfl⟩
          · rintro ⟨names, hnames, rfl⟩
            cases names with
            | nil => cases hnames
            | cons other names =>
                cases hnames
                rw [ih.mpr ⟨names, rfl, rfl⟩]
                rfl
      | index position =>
          constructor
          · intro hwrite
            cases hwrite
          · rintro ⟨names, hnames, -⟩
            cases names <;> cases hnames
      | wildcard =>
          constructor
          · intro hwrite
            cases hwrite
          · rintro ⟨names, hnames, -⟩
            cases names <;> cases hnames

/-- A value is written into an empty tree as into null. -/
theorem Path.write_empty_eq_ok_iff {path : Path} {new tree : Value} :
    Path.write new path .empty = .ok tree ↔ Path.write new path .null = .ok tree := by
  cases path with
  | nil => rfl
  | cons segment rest =>
      cases segment with
      | field name => rfl
      | index position => exact iff_of_false nofun nofun
      | wildcard => exact iff_of_false nofun nofun

/-- A mapped result that succeeds comes from a result that succeeds. -/
theorem exists_of_map_eq_ok {ε α β : Type} {f : α → β} {x : Except ε α} {b : β}
    (hmap : x.map f = .ok b) : ∃ a, x = .ok a ∧ f a = b := by
  cases x with
  | error error => cases hmap
  | ok a =>
      cases hmap
      exact ⟨a, rfl, rfl⟩

theorem mapError_eq_ok_iff {ε ε' α : Type} {cause : ε → ε'} {result : Except ε α} {a : α} :
    result.mapError cause = .ok a ↔ result = .ok a := by
  cases result with
  | error error => exact iff_of_false nofun nofun
  | ok b => exact ⟨fun hsame => by cases hsame; rfl, fun hsame => by cases hsame; rfl⟩

/-- A value is written into an empty tree at a path of fields or not at all. -/
theorem Value.patchAt_eq_ok_iff {value patch : Value} {path : String} :
    value.patchAt path = .ok patch ↔
      ∃ names, Path.read path = .ok (Path.ofFields names) ∧ patch = value.under names := by
  unfold patchAt setAt
  cases hread : Path.read path with
  | error error => exact iff_of_false nofun nofun
  | ok segments =>
      dsimp only
      rw [mapError_eq_ok_iff, Path.write_empty_eq_ok_iff, Path.write_null_eq_ok_iff]
      simp [Except.ok.injEq]

end Workflow
