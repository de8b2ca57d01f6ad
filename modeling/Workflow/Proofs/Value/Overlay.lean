import Workflow.Proofs.Value.Branches

/-!
# Merging at every depth

What some names lead to in a merge is told by what they lead to in the base and in the patch.  Where
the patch has a value, the merge has this value, merged over the object that the base has there.
Where it has none, the merge has what the base has, unless the patch cuts the names off,
`Value.CutsOff`: above their end it has something other than an object, and puts it in the place of
whatever the base has below.
-/

namespace Workflow

namespace Value

variable {tree base patch written value : Value} {names others : List String}

theorem lookup_append (tree : Value) (names others : List String) :
    tree.lookup (names ++ others) = (tree.lookup names).bind (lookup others) := by
  induction names generalizing tree with
  | nil => rfl
  | cons name names ih =>
      rw [List.cons_append, lookup_cons, lookup_cons]
      cases tree.field? name with
      | none => rfl
      | some child => exact ih child

theorem lookup_singleton (tree : Value) (name : String) :
    tree.lookup [name] = tree.field? name := by
  rw [lookup_cons]
  cases tree.field? name <;> rfl

theorem lookup_of_not_isObject (htree : tree.isObject = false) (hnames : names ≠ []) :
    tree.lookup names = none := by
  cases names with
  | nil => exact absurd rfl hnames
  | cons name names =>
      cases tree with
      | object => cases htree
      | _ => rfl

theorem Canonical.lookup (hcanonical : tree.Canonical) (hvalue : tree.lookup names = some value) :
    value.Canonical := by
  apply Path.canonical_of_mem_values hcanonical
  rw [Path.values_ofFields names tree, hvalue]
  exact List.mem_singleton_self value

/-- Nothing stored under a name is as good as an empty object there. -/
theorem getD_lookup_field? (tree : Value) (name : String) (names : List String) :
    (((tree.field? name).getD .empty).lookup names).getD .empty =
      (tree.lookup (name :: names)).getD .empty := by
  rw [lookup_cons]
  cases tree.field? name with
  | some child => rfl
  | none =>
      cases names with
      | nil => rfl
      | cons => rfl

/-- Above the end of the names the tree has something other than an object. -/
def CutsOff (tree : Value) (names : List String) : Prop :=
  ∃ above below value, names = above ++ below ∧ above ≠ [] ∧ below ≠ [] ∧
    tree.lookup above = some value ∧ value.isObject = false

theorem CutsOff.cons {name : String} {child : Value} (hcuts : child.CutsOff names)
    (hchild : tree.field? name = some child) : tree.CutsOff (name :: names) := by
  obtain ⟨above, below, value, rfl, -, hbelow, hvalue, hnone⟩ := hcuts
  refine ⟨name :: above, below, value, rfl, List.cons_ne_nil _ _, hbelow, ?_, hnone⟩
  rw [lookup_cons, hchild]
  exact hvalue

/-! ## Where the patch has a value -/

/-- What the patch has is merged over what the base has, or over the empty object. -/
theorem lookup_merge_of_lookup (hpatch : patch.Canonical)
    (hwritten : patch.lookup names = some written) :
    (base.merge patch).lookup names = some (((base.lookup names).getD .empty).merge written) := by
  induction names generalizing base patch with
  | nil =>
      cases hwritten
      rfl
  | cons name names ih =>
      obtain ⟨child, hchild, hwritten⟩ := Option.bind_eq_some_iff.mp hwritten
      rw [lookup_cons, field?_merge hpatch (isObject_of_field? hchild), hchild, Option.map_some,
        Option.some_or, Option.bind_some, ih (hpatch.field? hchild) hwritten, getD_lookup_field?]

/-- Only an object is merged, and only over an object; anything else is put in the place of what is
there. -/
theorem getD_merge (hwritten : written.Canonical) (old : Option Value) :
    (old.getD .empty).merge written = match old with
      | some old => if old.isObject ∧ written.isObject then old.merge written else written
      | none => written := by
  cases old with
  | none => exact empty_merge_of_sorted hwritten.sorted
  | some old =>
      dsimp only [Option.getD_some]
      by_cases hold : old.isObject = true
      · by_cases hobject : written.isObject = true
        · rw [if_pos ⟨hold, hobject⟩]
        · rw [if_neg fun hboth => hobject hboth.2,
            merge_of_not_isObject _ (Bool.eq_false_iff.mpr hobject)]
      · rw [if_neg fun hboth => hold hboth.1,
          merge_of_not_isObject_base (Bool.eq_false_iff.mpr hold) hwritten.sorted]

/-! ## Where the patch has none -/

theorem lookup_merge_of_cutsOff (hpatch : patch.Canonical) (hcuts : patch.CutsOff names) :
    (base.merge patch).lookup names = none := by
  obtain ⟨above, below, value, rfl, -, hbelow, hvalue, hnone⟩ := hcuts
  rw [lookup_append, lookup_merge_of_lookup hpatch hvalue, Option.bind_some,
    merge_of_not_isObject _ hnone, lookup_of_not_isObject hnone hbelow]

theorem lookup_merge_of_not_cutsOff (hpatch : patch.Canonical) (hobject : patch.isObject = true)
    (hnone : patch.lookup names = none) (hclear : ¬ patch.CutsOff names) :
    (base.merge patch).lookup names = base.lookup names := by
  induction names generalizing base patch with
  | nil => cases hnone
  | cons name names ih =>
      rw [lookup_cons, field?_merge hpatch hobject]
      cases hchild : patch.field? name with
      | none => rw [Option.map_none, Option.none_or, lookup_cons]
      | some child =>
          rw [lookup_cons, hchild, Option.bind_some] at hnone
          have hnames : names ≠ [] := by
            rintro rfl
            cases hnone
          have hchild' : child.isObject = true := by
            refine Bool.of_not_eq_false fun hplain => hclear ?_
            refine ⟨[name], names, child, rfl, List.cons_ne_nil _ _, hnames, ?_, hplain⟩
            rw [lookup_singleton, hchild]
          have hclear' : ¬ child.CutsOff names := fun hcuts => hclear (hcuts.cons hchild)
          rw [Option.map_some, Option.some_or, Option.bind_some,
            ih (hpatch.field? hchild) hchild' hnone hclear', lookup_getD_field? base name hnames]

/-- A key that an object of the patch does not have is kept, with all that is below it. -/
theorem lookup_merge_of_field?_eq_none {above : List String} {part : Value} {key : String}
    (hpatch : patch.Canonical) (hpart : patch.lookup above = some part)
    (hobject : part.isObject = true) (hnone : part.field? key = none) :
    (base.merge patch).lookup (above ++ [key]) = base.lookup (above ++ [key]) := by
  rw [lookup_append, lookup_append, lookup_merge_of_lookup hpatch hpart, Option.bind_some,
    lookup_singleton, field?_merge (hpatch.lookup hpart) hobject, hnone, Option.map_none,
    Option.none_or]
  cases base.lookup above with
  | none => rfl
  | some old => exact (lookup_singleton old key).symm

/-- A patch that has been merged already changes nothing. -/
theorem merge_merge_self (hbase : base.Canonical) (hpatch : patch.Canonical) :
    (base.merge patch).merge patch = base.merge patch := by
  induction patch using induction_on_fields generalizing base with
  | step patch ih =>
      by_cases hobject : patch.isObject = true
      · apply eq_of_field?_eq (isObject_merge _ hobject) (isObject_merge _ hobject)
          ((hbase.merge hpatch).merge hpatch).sorted (hbase.merge hpatch).sorted
        intro key
        rw [field?_merge hpatch hobject, field?_merge hpatch hobject]
        cases hchild : patch.field? key with
        | none => rfl
        | some child =>
            rw [Option.map_some, Option.map_some, Option.some_or, Option.some_or, Option.getD_some,
              ih key child hchild (hbase.getD_field? key) (hpatch.field? hchild)]
      · have hplain : patch.isObject = false := Bool.eq_false_iff.mpr hobject
        rw [merge_of_not_isObject _ hplain, merge_of_not_isObject _ hplain]

/-- What names lead to in a merge of objects.  Where the patch has a value, the merge has it too,
merged if both sides have objects there; where it has none, the merge has none if the patch cuts the
names off, and what the base has otherwise.  So no key is lost that the patch does not have, nothing
changes if the patch is empty, and nothing changes if it is merged once more. -/
theorem lookup_merge {base patch : Value} (hbase : base.isObject = true)
    (hpatch : patch.isObject = true) (hordered : base.Canonical) (hordered' : patch.Canonical) :
    (∀ names written, patch.lookup names = some written →
      (base.merge patch).lookup names = some (match base.lookup names with
        | some old => if old.isObject ∧ written.isObject then old.merge written else written
        | none => written)) ∧
    (∀ names, patch.lookup names = none →
      (patch.CutsOff names → (base.merge patch).lookup names = none) ∧
      (¬ patch.CutsOff names → (base.merge patch).lookup names = base.lookup names)) ∧
    (∀ above part key, patch.lookup above = some part → part.isObject = true →
      part.field? key = none →
        (base.merge patch).lookup (above ++ [key]) = base.lookup (above ++ [key])) ∧
    base.merge .empty = base ∧ (base.merge patch).merge patch = base.merge patch := by
  refine ⟨?_, ?_, ?_, merge_empty hbase, merge_merge_self hordered hordered'⟩
  · intro names written hwritten
    rw [lookup_merge_of_lookup hordered' hwritten, getD_merge (hordered'.lookup hwritten)]
  · intro names hnone
    exact ⟨lookup_merge_of_cutsOff hordered',
      lookup_merge_of_not_cutsOff hordered' hpatch hnone⟩
  · intro above part key hpart hobject hnone
    exact lookup_merge_of_field?_eq_none hordered' hpart hobject hnone

def bookedGuest : Value :=
  .object [("guest", .object [("home", .object [("city", .string "Oslo")]),
    ("name", .string "Ada"), ("room", .number (.int 7))])]

/-- A patch with a home that is no object any more, and with a room that is one. -/
def guestPatch : Value :=
  .object [("guest", .object [("home", .string "Oslo"), ("room", .object [("bed", .null)])])]

/-- The name of the guest is kept, the room is replaced, and the city of the home is cut off; the
patch merged once more changes nothing. -/
theorem bookedGuest_lookup :
    (bookedGuest.merge guestPatch).lookup ["guest", "name"] = some (.string "Ada") ∧
      (bookedGuest.merge guestPatch).lookup ["guest", "room"] =
        some (.object [("bed", .null)]) ∧
      (bookedGuest.merge guestPatch).lookup ["guest", "home", "city"] = none ∧
      (bookedGuest.merge guestPatch).merge guestPatch = bookedGuest.merge guestPatch := by
  have hguest : bookedGuest.Canonical := by decide +kernel
  have hpatch : guestPatch.Canonical := by decide +kernel
  have hcuts : guestPatch.CutsOff ["guest", "home", "city"] :=
    ⟨["guest", "home"], ["city"], .string "Oslo", rfl, by simp, by simp, by decide, rfl⟩
  have hpart : guestPatch.lookup ["guest"] =
      some (.object [("home", .string "Oslo"), ("room", .object [("bed", .null)])]) := by
    decide
  have hroom : guestPatch.lookup ["guest", "room"] = some (.object [("bed", .null)]) := by decide
  obtain ⟨hfound, hnone, hkept, -, hagain⟩ := lookup_merge rfl rfl hguest hpatch
  refine ⟨?_, ?_, (hnone _ (by decide)).1 hcuts, hagain⟩
  · exact (hkept ["guest"] _ "name" hpart rfl (by decide)).trans (by decide)
  · exact (hfound ["guest", "room"] _ hroom).trans (by decide)

end Value

end Workflow
