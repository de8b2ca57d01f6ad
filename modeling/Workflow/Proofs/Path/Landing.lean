import Workflow.Proofs.Path.Lens

/-!
# Where a patch lands

A patch is a value written at a path into an empty tree, and it is merged into a state.  It can be
written through fields only, whatever the state is, and it lands where the path reads: there the
state then has the value, merged over an object that was there if both are objects, and everywhere
apart from it what it had.
-/

namespace Workflow

/-! ## What stands in the way -/

namespace Path

variable {path : Path}

/-- A path with an index or a wildcard can be written into nothing, for the same reason whatever is
to be written. -/
theorem exists_fault_null (hpath : ¬ ∃ names, path = ofFields names) :
    ∃ fault, ∀ new, write new path .null = .error fault := by
  induction path with
  | nil => exact absurd ⟨[], rfl⟩ hpath
  | cons segment rest ih =>
      cases segment with
      | field name =>
          have hrest : ¬ ∃ names, rest = ofFields names := by
            rintro ⟨names, rfl⟩
            exact hpath ⟨name :: names, rfl⟩
          obtain ⟨fault, hfault⟩ := ih hrest
          refine ⟨fault, fun new => ?_⟩
          rw [write, hfault]
          rfl
      | index position => exact ⟨.indexInto "null", fun _ => rfl⟩
      | wildcard => exact ⟨.nothingToExpand "null", fun _ => rfl⟩

theorem exists_fault_empty (hpath : ¬ ∃ names, path = ofFields names) :
    ∃ fault, ∀ new, write new path .empty = .error fault := by
  cases path with
  | nil => exact absurd ⟨[], rfl⟩ hpath
  | cons segment rest =>
      cases segment with
      | field name => exact exists_fault_null hpath
      | index position => exact ⟨.indexInto "object", fun _ => rfl⟩
      | wildcard => exact ⟨.nothingToExpand "object", fun _ => rfl⟩

/-! ## Paths through fields that part -/

/-- A path does not part from one that it begins. -/
theorem not_parts_of_prefix {other : Path} (hbegins : path <+: other) : ¬ Parts path other := by
  rintro ⟨place, segment, segment', hsegment, hsegment', hne⟩
  obtain ⟨beyond, rfl⟩ := hbegins
  rw [List.getElem?_append_left (List.getElem?_eq_some_iff.mp hsegment).1, hsegment] at hsegment'
  exact hne (Option.some.inj hsegment')

theorem Parts.apart {names others : List String}
    (hparts : Parts (ofFields names) (ofFields others)) : Apart names others :=
  ⟨fun hbegins => not_parts_of_prefix (hbegins.map Segment.field) hparts,
    fun hbegins => not_parts_of_prefix (hbegins.map Segment.field) hparts.symm⟩

end Path

namespace Value

/-- A value can be written into an empty tree exactly at a path through fields. Anything else in a
path stands in the way of every value, and of every instruction, whatever state it sees. Merged into
a state, the value is read where it was written, merged over what was there if both are objects, and
what is read at a path that parts from this one is what was read there before. -/
theorem patchAt_lands {path : String} {segments : Path} (hread : Path.read path = .ok segments) :
    (∀ value : Value,
      (∃ patch, value.patchAt path = .ok patch) ↔ ∃ names, segments = Path.ofFields names) ∧
    ((¬ ∃ names, segments = Path.ofFields names) → ∃ fault,
      (∀ value : Value, value.patchAt path = .error (.cannotWrite path fault)) ∧
      ∀ (instruction : Instruction) (state value : Value), instruction.target = path →
        instruction.evaluate state = .ok value →
          instruction.write state = .error (.cannotWrite path fault)) ∧
    ∀ value state patch : Value, segments ≠ [] → value.patchAt path = .ok patch →
      (state.merge patch).valuesAt path = .ok [match state.valuesAt path with
        | .ok [old] => if old.isObject ∧ value.isObject then old.merge value else value
        | _ => value] ∧
      ∀ other others, Path.read other = .ok (Path.ofFields others) →
        Path.Parts segments (Path.ofFields others) →
          (state.merge patch).valuesAt other = state.valuesAt other := by
  refine ⟨fun value => ?_, fun hnone => ?_, fun value state patch hsome hpatch => ?_⟩
  · constructor
    · rintro ⟨patch, hpatch⟩
      obtain ⟨names, hnames, -⟩ := patchAt_eq_ok_iff.mp hpatch
      exact ⟨names, Except.ok.inj (hread.symm.trans hnames)⟩
    · rintro ⟨names, rfl⟩
      exact ⟨_, patchAt_eq_ok_iff.mpr ⟨names, hread, rfl⟩⟩
  · obtain ⟨fault, hfault⟩ := Path.exists_fault_empty hnone
    have hpatch (value : Value) : value.patchAt path = .error (.cannotWrite path fault) := by
      rw [patchAt, setAt_of_read hread, hfault]
      rfl
    refine ⟨fault, hpatch, fun instruction state value htarget hvalue => ?_⟩
    rw [Instruction.write, hvalue, htarget]
    exact hpatch value
  · obtain ⟨names, hnames, rfl⟩ := patchAt_eq_ok_iff.mp hpatch
    obtain rfl := Except.ok.inj (hread.symm.trans hnames)
    have hnames' : names ≠ [] := by
      rintro rfl
      exact hsome rfl
    constructor
    · rw [valuesAt_of_read_ofFields hread, valuesAt_of_read_ofFields hread,
        lookup_merge_under_eq value hnames']
      cases state.lookup names <;> rfl
    · intro other others hother hparts
      rw [valuesAt_of_read_ofFields hother, valuesAt_of_read_ofFields hother,
        lookup_merge_under_of_apart value hparts.apart]

def guestBooking : Value :=
  .object [("guest", .object [("name", .string "Ada")]), ("room", .number (.int 7))]

/-- The city of the guest is merged into what is known of the guest, and the room is kept; nothing
can be written into the first of several guests. -/
theorem guestBooking_lands :
    ∃ patch, (Value.object [("city", .string "Oslo")]).patchAt "$.guest" = .ok patch ∧
      (guestBooking.merge patch).valuesAt "$.guest" =
        .ok [.object [("city", .string "Oslo"), ("name", .string "Ada")]] ∧
      (guestBooking.merge patch).valuesAt "room" = guestBooking.valuesAt "room" ∧
      ∃ fault, Instruction.write ⟨.path "$.room", "$.guests[0]"⟩ guestBooking =
        .error (.cannotWrite "$.guests[0]" fault) := by
  have hguest : Path.read "$.guest" = .ok [.field "guest"] := by decide +kernel
  have hguests : Path.read "$.guests[0]" = .ok [.field "guests", .index 0] := by decide +kernel
  have hpatch : (Value.object [("city", .string "Oslo")]).patchAt "$.guest" =
      .ok (.object [("guest", .object [("city", .string "Oslo")])]) := by
    decide +kernel
  have hparts : Path.Parts [.field "guest"] (Path.ofFields ["room"]) :=
    ⟨0, .field "guest", .field "room", rfl, rfl, by decide⟩
  have hnone : ¬ ∃ names, [.field "guests", .index 0] = Path.ofFields names := by
    rintro ⟨names, hnames⟩
    have hmem : Segment.index 0 ∈ Path.ofFields names := by
      rw [← hnames]
      simp
    simp [Path.ofFields] at hmem
  obtain ⟨hthere, hapart⟩ :=
    (patchAt_lands hguest).2.2 _ guestBooking _ (List.cons_ne_nil _ _) hpatch
  obtain ⟨fault, -, hwrite⟩ := (patchAt_lands hguests).2.1 hnone
  refine ⟨_, hpatch, hthere.trans (by decide +kernel), ?_, fault, ?_⟩
  · exact hapart "room" ["room"] (by decide +kernel) hparts
  · exact hwrite _ guestBooking (.number (.int 7)) rfl (by decide +kernel)

end Value

end Workflow
