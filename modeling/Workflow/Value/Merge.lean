import Workflow.Value.Basic

/-!
# Deep merge

Data moves between scopes by merging one tree, the patch, over another.  Objects are overlaid key
by key, as deep as both sides are objects; any other patch replaces what it meets, and keys that
the patch does not have are kept.
-/

namespace Workflow.Value

mutual

/-- `patch` laid over `base`. An object laid over anything else starts from no fields. -/
def merge (base : Value) : Value → Value
  | .object patch => .object (mergeFields base.fields patch)
  | patch => patch

/-- The fields of a patch laid over a table, one after another. A field is merged only where both
sides are objects, and replaced otherwise. -/
def mergeFields (base : List (String × Value)) : List (String × Value) → List (String × Value)
  | [] => base
  | (key, value) :: rest =>
    mergeFields (Keyed.insert key (match Keyed.get? key base with
      | some (.object fields) => merge (.object fields) value
      | _ => value) base) rest

end

theorem merge_of_not_isObject (base : Value) {patch : Value} (h : patch.isObject = false) :
    merge base patch = patch := by
  cases patch <;> simp_all [merge, isObject]

@[simp] theorem merge_object (base : Value) (patch : List (String × Value)) :
    merge base (.object patch) = .object (mergeFields base.fields patch) := by
  rw [merge]

/-- A patch without fields leaves an object as it is. -/
theorem merge_empty {base : Value} (h : base.isObject) : merge base empty = base := by
  simp [empty, mergeFields, object_fields_of_isObject h]

end Workflow.Value
