import Workflow.Proofs.Value.Canonical

/-!
# Branches of a tree

Two lists of names lead apart if neither begins with the other, `Path.Apart`.  What is merged in
under some names is found there if nothing was there before, leaves everything apart from it as it
was, and can be merged in before or after what goes elsewhere.
-/

namespace Workflow

/-- Neither of two lists of names begins with the other. -/
def Path.Apart (names others : List String) : Prop :=
  ¬ names <+: others ∧ ¬ others <+: names

namespace Path.Apart

variable {names others : List String}

theorem symm (hapart : Path.Apart names others) : Path.Apart others names :=
  ⟨hapart.2, hapart.1⟩

theorem ne_nil (hapart : Path.Apart names others) : names ≠ [] := by
  rintro rfl
  exact hapart.1 List.nil_prefix

theorem of_cons {name : String} (hapart : Path.Apart (name :: names) (name :: others)) :
    Path.Apart names others :=
  ⟨fun hprefix => hapart.1 ((List.prefix_cons_inj name).mpr hprefix),
    fun hprefix => hapart.2 ((List.prefix_cons_inj name).mpr hprefix)⟩

end Path.Apart

theorem Path.ofFields_injective {names others : List String}
    (hsame : Path.ofFields names = Path.ofFields others) : names = others :=
  (List.map_inj_right fun _ _ hfield => Segment.field.inj hfield).mp hsame

namespace Value

variable {tree : Value} {names others : List String}

@[simp] theorem lookup_under (value : Value) (names : List String) :
    (value.under names).lookup names = some value := by
  induction names with
  | nil => rfl
  | cons name names ih =>
      rw [under_cons, lookup_cons, field?, fields_object, Keyed.get?_cons, if_pos rfl]
      exact ih

theorem lookup_empty (hnames : names ≠ []) : Value.empty.lookup names = none := by
  cases names with
  | nil => exact absurd rfl hnames
  | cons name names => rfl

theorem sorted_under (value : Value) (hnames : names ≠ []) :
    Keyed.Sorted (value.under names).fields := by
  cases names with
  | nil => exact absurd rfl hnames
  | cons name names => exact List.pairwise_singleton _ _

/-- Below the last name, a merge goes into what is stored under the first. -/
theorem merge_under_cons (tree value : Value) (name : String) (hnames : names ≠ []) :
    tree.merge (value.under (name :: names)) =
      .object (Keyed.insert name
        (((tree.field? name).getD .empty).merge (value.under names)) tree.fields) := by
  rw [under_cons, merge_object, mergeFields_cons (sorted_under value hnames), mergeFields, field?]

theorem lookup_getD_field? (tree : Value) (name : String) (hnames : names ≠ []) :
    ((tree.field? name).getD .empty).lookup names = tree.lookup (name :: names) := by
  rw [lookup_cons]
  cases tree.field? name with
  | none => exact lookup_empty hnames
  | some child => rfl

theorem field?_object_insert (key name : String) (value : Value)
    (fields : List (String × Value)) :
    (Value.object (Keyed.insert name value fields)).field? key =
      if key = name then some value else Keyed.get? key fields :=
  Keyed.get?_insert name key value fields

/-- What is merged in under some names is found there, merged over what was there if both are
objects. -/
theorem lookup_merge_under_eq (value : Value) (hnames : names ≠ []) :
    (tree.merge (value.under names)).lookup names = some (match tree.lookup names with
      | some old => if old.isObject ∧ value.isObject then old.merge value else value
      | none => value) := by
  induction names generalizing tree with
  | nil => exact absurd rfl hnames
  | cons name names ih =>
      cases names with
      | nil =>
          rw [under_cons, merge_object, mergeFields, mergeFields, lookup_cons,
            field?_object_insert, if_pos rfl, lookup_cons, field?]
          cases Keyed.get? name tree.fields with
          | none => rfl
          | some old =>
              refine congrArg some ?_
              cases old with
              | object fields =>
                  by_cases hobject : value.isObject = true
                  · exact (if_pos ⟨rfl, hobject⟩).symm
                  · exact (merge_of_not_isObject _ (Bool.eq_false_iff.mpr hobject)).trans
                      (if_neg fun hboth => hobject hboth.2).symm
              | _ => rfl
      | cons next names =>
          have hbelow : next :: names ≠ [] := List.cons_ne_nil next names
          rw [merge_under_cons tree value name hbelow, lookup_cons, field?_object_insert,
            if_pos rfl, Option.bind_some, ih hbelow, lookup_getD_field? tree name hbelow]

/-- What is merged in where nothing was is found there. -/
theorem lookup_merge_under (value : Value) (hnone : tree.lookup names = none) :
    (tree.merge (value.under names)).lookup names = some value := by
  have hnames : names ≠ [] := by
    rintro rfl
    cases hnone
  rw [lookup_merge_under_eq value hnames, hnone]

/-- What is merged in leaves everything apart from it as it was. -/
theorem lookup_merge_under_of_apart (value : Value) (hapart : Path.Apart names others) :
    (tree.merge (value.under names)).lookup others = tree.lookup others := by
  induction names generalizing tree others with
  | nil => exact absurd rfl hapart.ne_nil
  | cons name names ih =>
      cases others with
      | nil => exact absurd rfl hapart.symm.ne_nil
      | cons other others =>
          by_cases hsame : other = name
          · subst hsame
            have hbelow := hapart.of_cons
            rw [merge_under_cons tree value other hbelow.ne_nil, lookup_cons,
              field?_object_insert, if_pos rfl, Option.bind_some, ih hbelow,
              lookup_getD_field? tree other hbelow.symm.ne_nil]
          · rw [under_cons, merge_object, mergeFields, mergeFields, lookup_cons, lookup_cons,
              field?_object_insert, if_neg hsame, field?]

/-- What goes apart can be merged in in either order. -/
theorem merge_under_comm (tree value other : Value) (hapart : Path.Apart names others) :
    (tree.merge (value.under names)).merge (other.under others) =
      (tree.merge (other.under others)).merge (value.under names) := by
  induction names generalizing tree others with
  | nil => exact absurd rfl hapart.ne_nil
  | cons name names ih =>
      cases others with
      | nil => exact absurd rfl hapart.symm.ne_nil
      | cons name' others =>
          -- Under one name both go into what is stored there, and part below it.
          by_cases hsame : name = name'
          · subst hsame
            have hbelow := hapart.of_cons
            have hnames := hbelow.ne_nil
            have hothers := hbelow.symm.ne_nil
            rw [merge_under_cons tree value name hnames, merge_under_cons tree other name hothers,
              merge_under_cons _ other name hothers, merge_under_cons _ value name hnames,
              field?_object_insert, field?_object_insert, if_pos rfl, if_pos rfl, fields_object,
              fields_object, Keyed.insert_insert, Keyed.insert_insert, Option.getD_some,
              Option.getD_some, ih _ hbelow]
          · simp only [under_cons, merge_object, mergeFields, fields_object, Keyed.get?_insert,
              if_neg hsame, if_neg (Ne.symm hsame)]
            rw [Keyed.insert_comm (Ne.symm hsame)]

end Value

end Workflow
