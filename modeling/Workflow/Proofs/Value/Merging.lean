import Workflow.Value.Merge

/-!
# Merging into a tree

What is merged into an object stays an object whose fields stand in order, whatever the patch is.
Such an object is what merging it into nothing gives.
-/

namespace Workflow

namespace Keyed

variable {α : Type}

theorem get?_eq_none_of_ne {key : String} {table : List (String × α)}
    (hne : ∀ pair ∈ table, pair.1 ≠ key) : get? key table = none := by
  induction table with
  | nil => rfl
  | cons first rest ih =>
      obtain ⟨name, value⟩ := first
      obtain ⟨hfirst, hrest⟩ := List.forall_mem_cons.mp hne
      rw [get?_cons, if_neg (Ne.symm hfirst), ih hrest]

theorem get?_eq_none_of_lt {key : String} {table : List (String × α)}
    (hbelow : ∀ pair ∈ table, pair.1 < key) : get? key table = none := by
  apply get?_eq_none_of_ne
  rintro pair hpair rfl
  exact String.lt_irrefl _ (hbelow pair hpair)

/-- A key above all others is stored at the end. -/
theorem insert_eq_append_of_lt {key : String} {value : α} {table : List (String × α)}
    (hbelow : ∀ pair ∈ table, pair.1 < key) : insert key value table = table ++ [(key, value)] := by
  induction table with
  | nil => rfl
  | cons first rest ih =>
      obtain ⟨name, old⟩ := first
      have hlt : name < key := hbelow (name, old) List.mem_cons_self
      have hne : key ≠ name := by
        rintro rfl
        exact String.lt_irrefl _ hlt
      rw [insert, if_neg hne, if_neg (String.lt_asymm hlt), List.cons_append,
        ih fun pair hpair => hbelow pair (List.mem_cons_of_mem _ hpair)]

end Keyed

namespace Value

theorem sorted_mergeFields {base : List (String × Value)} (hbase : Keyed.Sorted base)
    (patch : List (String × Value)) : Keyed.Sorted (mergeFields base patch) := by
  induction patch generalizing base with
  | nil =>
      rw [mergeFields]
      exact hbase
  | cons first rest ih =>
      rw [mergeFields]
      exact ih (hbase.insert _ _)

/-- A merge keeps the fields in order. -/
theorem sorted_fields_merge {base : Value} (hbase : Keyed.Sorted base.fields) (patch : Value) :
    Keyed.Sorted (base.merge patch).fields := by
  cases patch with
  | object fields =>
      rw [merge_object]
      exact sorted_mergeFields hbase fields
  | _ =>
      rw [merge_of_not_isObject base rfl]
      exact List.Pairwise.nil

/-- Whatever an object is merged into, the outcome is an object. -/
theorem isObject_merge (base : Value) {patch : Value} (hpatch : patch.isObject = true) :
    (base.merge patch).isObject = true := by
  cases patch with
  | object fields =>
      rw [merge_object]
      rfl
  | _ => cases hpatch

/-- Fields that follow those of a table are appended to it one by one. -/
theorem mergeFields_eq_append {base patch : List (String × Value)}
    (hsorted : Keyed.Sorted (base ++ patch)) : mergeFields base patch = base ++ patch := by
  induction patch generalizing base with
  | nil => rw [mergeFields, List.append_nil]
  | cons first rest ih =>
      obtain ⟨key, value⟩ := first
      have hbelow : ∀ pair ∈ base, pair.1 < key :=
        fun pair hpair => (List.pairwise_append.mp hsorted).2.2 pair hpair _ List.mem_cons_self
      rw [mergeFields, Keyed.get?_eq_none_of_lt hbelow, Keyed.insert_eq_append_of_lt hbelow, ih]
      · simp
      · simpa using hsorted

/-- A tree with its fields in order is what merging it into nothing gives. -/
theorem empty_merge_of_sorted {tree : Value} (hsorted : Keyed.Sorted tree.fields) :
    empty.merge tree = tree := by
  cases tree with
  | object fields =>
      rw [merge_object]
      exact congrArg Value.object (mergeFields_eq_append hsorted)
  | _ => exact merge_of_not_isObject empty rfl

end Value

end Workflow
