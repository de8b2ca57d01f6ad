import Workflow.Proofs.Value.Canonical

/-!
# Merging one after another

Two patches can be merged over a base one after another, or the second can be merged over the first
and both over the base at once.  Both come to the same unless the second patch brings something
back, `Value.Revives`: where the base has an object and the first patch something else, the second
patch has an object again.  One after another, nothing of the first object is left.  At once, what
the second object does not replace is there again.
-/

namespace Workflow

namespace Value

/-- Of what `patch` takes from `base`, merging `written` over `patch` brings a part back. -/
inductive Revives : Value → Value → Value → Prop
  | here {taken added : List (String × Value)} {patch : Value} (hpatch : patch.isObject = false)
      (hleft : merge (.object taken) (.object added) ≠ .object added) :
      Revives (.object taken) patch (.object added)
  | inside {base patch written base' patch' written' : Value} (key : String)
      (hbase : base.field? key = some base') (hpatch : patch.field? key = some patch')
      (hwritten : written.field? key = some written') (hrevives : Revives base' patch' written') :
      Revives base patch written

variable {base patch written : Value}

theorem Revives.isObject_base (hrevives : Revives base patch written) :
    base.isObject = true := by
  cases hrevives with
  | here hpatch hleft => rfl
  | inside key hbase hpatch hwritten hrevives => exact isObject_of_field? hbase

/-- Nothing can be brought back where there was nothing. -/
theorem not_revives_empty (hwritten : written.Canonical) : ¬ Revives .empty patch written := by
  intro hrevives
  cases hrevives with
  | here hpatch hleft => exact hleft (empty_merge_of_sorted hwritten.sorted)
  | inside key hbase hpatch hwritten hrevives => cases hbase

/-- Nothing can be brought back into a base without objects below its root. -/
theorem not_revives_of_flat (hflat : ∀ pair ∈ base.fields, pair.2.isObject = false)
    (hpatch : patch.isObject = true) : ¬ Revives base patch written := by
  intro hrevives
  cases hrevives with
  | here hnone hleft =>
      rw [hpatch] at hnone
      cases hnone
  | inside key hbase hpatch hwritten hrevives =>
      have hchild := hflat _ (Keyed.mem_of_get? hbase)
      rw [hrevives.isObject_base] at hchild
      cases hchild

/-- What is brought back is there if both patches are merged over the base at once, and is not if
they are merged one after another. -/
theorem Revives.merge_ne (hrevives : Revives base patch written) (hpatch : patch.Canonical)
    (hwritten : written.Canonical) :
    (base.merge patch).merge written ≠ base.merge (patch.merge written) := by
  induction hrevives with
  | here hnone hleft =>
      rw [merge_of_not_isObject _ hnone, merge_of_not_isObject_base hnone hwritten.sorted]
      exact Ne.symm hleft
  | inside key hbase hpatch' hwritten' hrevives ih =>
      intro hsame
      have hobject := isObject_of_field? hwritten'
      have hfield := congrArg (fun tree => tree.field? key) hsame
      rw [field?_merge hwritten hobject, field?_merge hpatch (isObject_of_field? hpatch'),
        field?_merge (hpatch.merge hwritten) (isObject_merge _ hobject),
        field?_merge hwritten hobject, hbase, hpatch', hwritten'] at hfield
      exact ih (hpatch.field? hpatch') (hwritten.field? hwritten') (Option.some.inj hfield)

/-- An object that is merged after something else has taken the place of the base leaves nothing of
the base. -/
theorem merge_eq_of_not_revives (hpatch : patch.isObject = false)
    (hobject : written.isObject = true) (hsorted : Keyed.Sorted written.fields)
    (hnone : ¬ Revives base patch written) : base.merge written = written := by
  by_cases hbase : base.isObject = true
  · refine Classical.byContradiction fun hleft => hnone ?_
    rw [← object_fields_of_isObject hbase, ← object_fields_of_isObject hobject] at hleft ⊢
    exact .here hpatch hleft
  · exact merge_of_not_isObject_base (Bool.eq_false_iff.mpr hbase) hsorted

/-- Where nothing is brought back, it makes no difference whether two patches are merged over a base
one after another or at once. -/
theorem merge_assoc (hbase : base.Canonical) (hpatch : patch.Canonical)
    (hwritten : written.Canonical) (hnone : ¬ Revives base patch written) :
    (base.merge patch).merge written = base.merge (patch.merge written) := by
  induction written using induction_on_fields generalizing base patch with
  | step written ih =>
      by_cases hobject : written.isObject = true
      · by_cases hmiddle : patch.isObject = true
        · apply eq_of_field?_eq (isObject_merge _ hobject)
            (isObject_merge _ (isObject_merge _ hobject))
            ((hbase.merge hpatch).merge hwritten).sorted
            (hbase.merge (hpatch.merge hwritten)).sorted
          intro key
          rw [field?_merge hwritten hobject, field?_merge hpatch hmiddle,
            field?_merge (hpatch.merge hwritten) (isObject_merge _ hobject),
            field?_merge hwritten hobject]
          cases hnew : written.field? key with
          | none => rfl
          | some new =>
              have hnew' := hwritten.field? hnew
              cases hold : patch.field? key with
              | none =>
                  simp only [Option.map_some, Option.map_none, Option.some_or, Option.none_or,
                    Option.getD_none, empty_merge_of_sorted hnew'.sorted]
              | some old =>
                  simp only [Option.map_some, Option.some_or, Option.getD_some]
                  refine congrArg some
                    (ih key new hnew (hbase.getD_field? key) (hpatch.field? hold) hnew' ?_)
                  intro hrevives
                  cases hfirst : base.field? key with
                  | none =>
                      rw [hfirst] at hrevives
                      exact not_revives_empty hnew' hrevives
                  | some first =>
                      rw [hfirst] at hrevives
                      exact hnone (.inside key hfirst hold hnew hrevives)
        · have hmiddle : patch.isObject = false := Bool.eq_false_iff.mpr hmiddle
          rw [merge_of_not_isObject _ hmiddle, merge_of_not_isObject_base hmiddle hwritten.sorted,
            merge_eq_of_not_revives hmiddle hobject hwritten.sorted hnone]
      · have hobject : written.isObject = false := Bool.eq_false_iff.mpr hobject
        rw [merge_of_not_isObject _ hobject, merge_of_not_isObject _ hobject,
          merge_of_not_isObject _ hobject]

theorem merge_assoc_iff (hbase : base.Canonical) (hpatch : patch.Canonical)
    (hwritten : written.Canonical) :
    (base.merge patch).merge written = base.merge (patch.merge written) ↔
      ¬ Revives base patch written := by
  constructor
  · intro hsame hrevives
    exact hrevives.merge_ne hpatch hwritten hsame
  · exact merge_assoc hbase hpatch hwritten

/-! ## Many patches -/

/-- Under some names `patch` has something other than an object, and `base` and `written` have
objects. -/
def Interrupts (patch base written : Value) : Prop :=
  ∃ names first between last, base.lookup names = some first ∧
    patch.lookup names = some between ∧ written.lookup names = some last ∧
    first.isObject = true ∧ between.isObject = false ∧ last.isObject = true

/-- What brings something back writes an object where the patch has something else in the place of
one. -/
theorem Revives.interrupts (hrevives : Revives base patch written) :
    patch.Interrupts base written := by
  induction hrevives with
  | here hpatch hleft => exact ⟨[], _, _, _, rfl, rfl, rfl, rfl, hpatch, rfl⟩
  | inside key hbase hpatch hwritten _ ih =>
      obtain ⟨names, first, between, last, hfirst, hbetween, hlast, hobjects⟩ := ih
      refine ⟨key :: names, first, between, last, ?_, ?_, ?_, hobjects⟩
      · rw [lookup_cons, hbase, Option.bind_some, hfirst]
      · rw [lookup_cons, hpatch, Option.bind_some, hbetween]
      · rw [lookup_cons, hwritten, Option.bind_some, hlast]

theorem Interrupts.isObject_base (hinterrupts : patch.Interrupts base written) :
    base.isObject = true := by
  obtain ⟨names, first, between, last, hfirst, -, -, hobject, -⟩ := hinterrupts
  cases names with
  | nil =>
      cases hfirst
      exact hobject
  | cons name names =>
      obtain ⟨child, hchild, -⟩ := Option.bind_eq_some_iff.mp hfirst
      exact isObject_of_field? hchild

/-- A patch that is an object interrupts another one under some key, or none. -/
theorem Interrupts.below (hinterrupts : patch.Interrupts base written)
    (hpatch : patch.isObject = true) : ∃ key first between last,
      base.field? key = some first ∧ patch.field? key = some between ∧
        written.field? key = some last ∧ between.Interrupts first last := by
  obtain ⟨names, first, between, last, hfirst, hbetween, hlast, hobjects⟩ := hinterrupts
  cases names with
  | nil =>
      cases hbetween
      rw [hpatch] at hobjects
      cases hobjects.2.1
  | cons name names =>
      obtain ⟨first', hname, hfirst⟩ := Option.bind_eq_some_iff.mp hfirst
      obtain ⟨between', hname', hbetween⟩ := Option.bind_eq_some_iff.mp hbetween
      obtain ⟨last', hname'', hlast⟩ := Option.bind_eq_some_iff.mp hlast
      exact ⟨name, first', between', last', hname, hname', hname'',
        names, first, between, last, hfirst, hbetween, hlast, hobjects⟩

/-- Patches that are gathered first and merged over a base at once come to the same as merged one
after another, if none of them meets an object that those before it interrupt. -/
theorem merge_foldl {gathered : Value} {patches : List Value} (hbase : base.Canonical)
    (hgathered : gathered.Canonical) (hpatches : ∀ patch ∈ patches, patch.Canonical)
    (hnone : ∀ before patch after, patches = before ++ patch :: after →
      ¬ (before.foldl merge gathered).Interrupts base patch) :
    base.merge (patches.foldl merge gathered) = patches.foldl merge (base.merge gathered) := by
  induction patches generalizing gathered with
  | nil => rfl
  | cons patch rest ih =>
      obtain ⟨hpatch, hrest⟩ := List.forall_mem_cons.mp hpatches
      have hfirst : ¬ Revives base gathered patch :=
        fun hrevives => hnone [] patch rest rfl hrevives.interrupts
      have hlater : ∀ before next after, rest = before ++ next :: after →
          ¬ (before.foldl merge (gathered.merge patch)).Interrupts base next := by
        rintro before next after rfl
        exact hnone (patch :: before) next after rfl
      rw [List.foldl_cons, List.foldl_cons, merge_assoc hbase hgathered hpatch hfirst]
      exact ih (hgathered.merge hpatch) hrest hlater

end Value

end Workflow
