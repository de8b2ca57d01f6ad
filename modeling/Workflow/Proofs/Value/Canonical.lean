import Workflow.Json.Basic
import Workflow.Proofs.Value.Fields

/-!
# Trees in order

A tree is canonical if every object in it has its fields in the order of their keys.  A tree that is
read from text is canonical, what a path leads to in a canonical tree is, and so is what a merge of
canonical trees and an instruction with a canonical literal make.  Whether a tree is canonical can
be decided.

What a merge of canonical trees has under a key is told by what both have there,
`Value.get?_mergeFields`: what the patch has is merged over what is there, or over the empty object
where there is nothing.
-/

namespace Workflow

namespace Value

theorem canonicalItems_iff {items : List Value} :
    CanonicalItems items ↔ ∀ item ∈ items, item.Canonical := by
  induction items with
  | nil => simp [CanonicalItems]
  | cons item rest ih => rw [CanonicalItems, ih, List.forall_mem_cons]

theorem canonicalFields_iff {fields : List (String × Value)} :
    CanonicalFields fields ↔ ∀ pair ∈ fields, pair.2.Canonical := by
  induction fields with
  | nil => simp [CanonicalFields]
  | cons pair rest ih => rw [CanonicalFields, ih, List.forall_mem_cons]

theorem canonical_list_iff {items : List Value} :
    (Value.list items).Canonical ↔ ∀ item ∈ items, item.Canonical := by
  rw [Canonical, canonicalItems_iff]

theorem canonical_object_iff {fields : List (String × Value)} :
    (Value.object fields).Canonical ↔
      Keyed.Sorted fields ∧ ∀ pair ∈ fields, pair.2.Canonical := by
  rw [Canonical, canonicalFields_iff]

mutual

def decideCanonical : (tree : Value) → Decidable tree.Canonical
  | .list items => decideCanonicalItems items
  | .object fields =>
    have := decideCanonicalFields fields
    inferInstanceAs (Decidable (fields.Pairwise (fun a b => a.1 < b.1) ∧ CanonicalFields fields))
  | .null | .bool _ | .number _ | .string _ => isTrue trivial

def decideCanonicalItems : (items : List Value) → Decidable (CanonicalItems items)
  | [] => isTrue trivial
  | item :: rest =>
    have := decideCanonical item
    have := decideCanonicalItems rest
    inferInstanceAs (Decidable (item.Canonical ∧ CanonicalItems rest))

def decideCanonicalFields : (fields : List (String × Value)) → Decidable (CanonicalFields fields)
  | [] => isTrue trivial
  | (_, value) :: rest =>
    have := decideCanonical value
    have := decideCanonicalFields rest
    inferInstanceAs (Decidable (value.Canonical ∧ CanonicalFields rest))

end

instance : DecidablePred Canonical := decideCanonical

theorem canonical_empty : Value.empty.Canonical := by
  rw [empty, canonical_object_iff]
  exact ⟨.nil, by simp⟩

namespace Canonical

variable {tree base patch : Value}

theorem sorted (hcanonical : tree.Canonical) : Keyed.Sorted tree.fields := by
  cases tree with
  | object fields => exact (canonical_object_iff.mp hcanonical).1
  | _ => exact .nil

theorem field? (hcanonical : tree.Canonical) {key : String} {child : Value}
    (hchild : tree.field? key = some child) : child.Canonical := by
  have hmem : (key, child) ∈ tree.fields := Keyed.mem_of_get? hchild
  cases tree with
  | object fields => exact (canonical_object_iff.mp hcanonical).2 (key, child) hmem
  | _ => cases hmem

theorem getD_field? (hcanonical : tree.Canonical) (key : String) :
    ((tree.field? key).getD .empty).Canonical := by
  cases hchild : tree.field? key with
  | none => exact canonical_empty
  | some child => exact hcanonical.field? hchild

theorem under (hcanonical : tree.Canonical) (names : List String) :
    (tree.under names).Canonical := by
  induction names with
  | nil => exact hcanonical
  | cons name names ih =>
      rw [under_cons, canonical_object_iff]
      exact ⟨List.pairwise_singleton _ _, by simpa using ih⟩

end Canonical

/-! ## Merging -/

/-- A tree with its fields in order replaces what is no object. -/
theorem merge_of_not_isObject_base {base patch : Value} (hbase : base.isObject = false)
    (hpatch : Keyed.Sorted patch.fields) : base.merge patch = patch := by
  have hsame : base.merge patch = empty.merge patch := by
    cases patch with
    | object fields =>
        cases base with
        | object => cases hbase
        | _ => rfl
    | _ => rfl
  rw [hsame, empty_merge_of_sorted hpatch]

theorem mergeFields_cons {base rest : List (String × Value)} {key : String} {value : Value}
    (hsorted : Keyed.Sorted value.fields) :
    mergeFields base ((key, value) :: rest) =
      mergeFields (Keyed.insert key (((Keyed.get? key base).getD .empty).merge value) base)
        rest := by
  rw [mergeFields]
  refine congrArg (fun stored => mergeFields (Keyed.insert key stored base) rest) ?_
  split
  · next fields hfields => rw [hfields, Option.getD_some]
  · next hnone =>
      cases hold : Keyed.get? key base with
      | none => exact (empty_merge_of_sorted hsorted).symm
      | some old =>
          have hold' : old.isObject = false := by
            cases old with
            | object fields => exact absurd hold (hnone fields)
            | _ => rfl
          exact (merge_of_not_isObject_base hold' hsorted).symm

/-- A merge changes what is stored under the keys of the patch and nothing else. -/
theorem get?_mergeFields {base patch : List (String × Value)}
    (hpatch : (Value.object patch).Canonical) (key : String) :
    Keyed.get? key (mergeFields base patch) =
      ((Keyed.get? key patch).map fun value =>
        ((Keyed.get? key base).getD .empty).merge value).or (Keyed.get? key base) := by
  obtain ⟨hsorted, hvalues⟩ := canonical_object_iff.mp hpatch
  clear hpatch
  induction patch generalizing base with
  | nil => simp [mergeFields]
  | cons first rest ih =>
      obtain ⟨name, value⟩ := first
      obtain ⟨hvalue, hrest⟩ := List.forall_mem_cons.mp hvalues
      obtain ⟨hbelow, hsorted⟩ := List.pairwise_cons.mp hsorted
      rw [mergeFields_cons hvalue.sorted, ih hsorted hrest, Keyed.get?_insert, Keyed.get?_cons]
      by_cases hkey : key = name
      · subst hkey
        have hnone : Keyed.get? key rest = none := by
          apply Keyed.get?_eq_none_of_ne
          rintro pair hpair rfl
          exact String.lt_irrefl _ (hbelow pair hpair)
        simp [hnone]
      · simp [hkey]

theorem field?_merge {base patch : Value} (hpatch : patch.Canonical)
    (hobject : patch.isObject = true) (key : String) :
    (base.merge patch).field? key =
      ((patch.field? key).map fun value =>
        ((base.field? key).getD .empty).merge value).or (base.field? key) := by
  cases patch with
  | object fields =>
      rw [merge_object, Value.field?, fields_object, get?_mergeFields hpatch]
      rfl
  | _ => cases hobject

theorem Canonical.merge {base patch : Value} (hbase : base.Canonical) (hpatch : patch.Canonical) :
    (base.merge patch).Canonical := by
  induction patch using induction_on_fields generalizing base with
  | step patch ih =>
      cases patch with
      | object fields =>
          rw [merge_object, canonical_object_iff]
          have hsorted := sorted_mergeFields hbase.sorted fields
          refine ⟨hsorted, fun pair hpair => ?_⟩
          have hstored := Keyed.get?_of_mem hsorted hpair
          rw [get?_mergeFields hpatch] at hstored
          rcases Option.or_eq_some_iff.mp hstored with hmerged | ⟨-, hkept⟩
          · obtain ⟨value, hvalue, hmerged⟩ := Option.map_eq_some_iff.mp hmerged
            rw [← hmerged]
            exact ih pair.1 value hvalue (hbase.getD_field? pair.1) (hpatch.field? hvalue)
          · exact hbase.field? hkept
      | _ => exact hpatch

end Value

/-! ## Reading -/

namespace Json

mutual

/-- A tree that is read is canonical: the fields of its objects are stored one by one. -/
theorem canonical_of_toValue? {json : Json} {value : Value} (hvalue : json.toValue? = some value) :
    value.Canonical := by
  cases json with
  | list items =>
      obtain ⟨values, hvalues, rfl⟩ := Option.map_eq_some_iff.mp hvalue
      rw [Value.canonical_list_iff]
      exact canonical_of_itemsToValues? hvalues
  | object fields =>
      obtain ⟨table, htable, rfl⟩ := Option.map_eq_some_iff.mp hvalue
      exact canonical_of_fieldsToTable? Value.canonical_empty htable
  | unreadable => cases hvalue
  | _ =>
      cases hvalue
      trivial

theorem canonical_of_itemsToValues? {items : List Json} {values : List Value}
    (hvalues : itemsToValues? items = some values) : ∀ value ∈ values, value.Canonical := by
  cases items with
  | nil =>
      cases hvalues
      simp
  | cons item rest =>
      rw [itemsToValues?] at hvalues
      split at hvalues
      · next first others hfirst hothers =>
          cases hvalues
          exact List.forall_mem_cons.mpr
            ⟨canonical_of_toValue? hfirst, canonical_of_itemsToValues? hothers⟩
      · cases hvalues

theorem canonical_of_fieldsToTable? {fields : List (String × Json)}
    {table stored : List (String × Value)} (htable : (Value.object table).Canonical)
    (hstored : fieldsToTable? table fields = some stored) : (Value.object stored).Canonical := by
  cases fields with
  | nil =>
      cases hstored
      exact htable
  | cons first rest =>
      obtain ⟨key, field⟩ := first
      rw [fieldsToTable?] at hstored
      split at hstored
      · next value hvalue =>
          refine canonical_of_fieldsToTable? ?_ hstored
          obtain ⟨hsorted, hvalues⟩ := Value.canonical_object_iff.mp htable
          refine Value.canonical_object_iff.mpr ⟨hsorted.insert key value, fun pair hpair => ?_⟩
          rcases Keyed.mem_insert hpair with rfl | hpair
          · exact canonical_of_toValue? hvalue
          · exact hvalues pair hpair
      · cases hstored

end

end Json

theorem Path.canonical_of_mem_values {path : Path} {tree value : Value}
    (htree : tree.Canonical) (hvalue : value ∈ Path.values path tree) : value.Canonical := by
  induction path generalizing tree with
  | nil =>
      rw [Path.values, List.mem_singleton] at hvalue
      exact hvalue ▸ htree
  | cons segment rest ih =>
      cases segment with
      | field name =>
          rw [Path.values] at hvalue
          split at hvalue
          · next child hchild => exact ih (htree.field? hchild) hvalue
          · cases hvalue
      | index position =>
          cases tree with
          | list items =>
              rw [Path.values] at hvalue
              split at hvalue
              · next child hchild =>
                  exact ih (Value.canonical_list_iff.mp htree child
                    (List.mem_of_getElem? hchild)) hvalue
              · cases hvalue
          | _ => cases hvalue
      | wildcard =>
          cases tree with
          | list items =>
              obtain ⟨item, hitem, hvalue⟩ := List.mem_flatMap.mp hvalue
              exact ih (Value.canonical_list_iff.mp htree item hitem) hvalue
          | object fields =>
              obtain ⟨pair, hpair, hvalue⟩ := List.mem_flatMap.mp hvalue
              exact ih ((Value.canonical_object_iff.mp htree).2 pair hpair) hvalue
          | _ => cases hvalue

theorem Value.canonical_of_valueAt {tree value : Value} {path : String} (htree : tree.Canonical)
    (hvalue : tree.valueAt path = .ok value) : value.Canonical := by
  unfold valueAt valueAt? valuesAt at hvalue
  cases hread : Path.read path with
  | error error =>
      rw [hread] at hvalue
      cases hvalue
  | ok segments =>
      rw [hread] at hvalue
      cases hhead : (Path.values segments tree).head? with
      | none =>
          simp only [Except.map, hhead] at hvalue
          cases hvalue
      | some first =>
          simp only [Except.map, hhead] at hvalue
          cases hvalue
          exact Path.canonical_of_mem_values htree (List.mem_of_head? hhead)

/-! ## Instructions -/

namespace Instruction

/-- The literal of the instruction, if it has one, is canonical. -/
def Canonical (instruction : Instruction) : Prop :=
  match instruction.operand with
  | .literal value => value.Canonical
  | .path _ | .template _ => True

/-- What an instruction writes is canonical. -/
theorem Canonical.write {instruction : Instruction} (hliteral : instruction.Canonical)
    {state written : Value} (hstate : state.Canonical)
    (hwrite : instruction.write state = .ok written) : written.Canonical := by
  unfold Instruction.write at hwrite
  split at hwrite
  · next value hvalue =>
      obtain ⟨names, -, rfl⟩ := Value.patchAt_eq_ok_iff.mp hwrite
      apply Value.Canonical.under
      unfold Instruction.Canonical at hliteral
      unfold evaluate at hvalue
      split at hvalue
      · next literal hoperand =>
          cases hvalue
          rw [hoperand] at hliteral
          exact hliteral
      · exact Value.canonical_of_valueAt hstate hvalue
      · next text _ =>
          cases hrender : Template.render text state with
          | error error =>
              rw [hrender] at hvalue
              cases hvalue
          | ok rendered =>
              rw [hrender] at hvalue
              cases hvalue
              trivial
  · cases hwrite

end Instruction

end Workflow
