import Workflow.Proofs.Path.Writing
import Workflow.Proofs.Value.Branches

/-!
# Reading after a write

What is written at a path is read there afterwards, and it is all that is read there.  Of two writes
at one path the last stays, and writing what is read already changes nothing.  What is read where
another path parts from the written one, `Path.Parts`, is read there as before, though a write makes
objects of what is null or missing on its way.
-/

namespace Workflow

namespace Path

/-- The path leads somewhere in the tree, and everywhere to `value`. -/
def LeadsOnlyTo (path : Path) (tree value : Value) : Prop :=
  values path tree ≠ [] ∧ ∀ found ∈ values path tree, found = value

variable {path other : Path} {tree written new : Value}

/-- Where there are children, and from each of them the path leads on to nothing but `new`, so does
a wildcard before it. -/
theorem leadsOnlyTo_flatMap {α : Type} {children : List α} {child : α → Value}
    (hsome : children ≠ []) (hchildren : ∀ a ∈ children, LeadsOnlyTo path (child a) new) :
    (children.flatMap fun a => values path (child a)) ≠ [] ∧
      ∀ found ∈ children.flatMap fun a => values path (child a), found = new := by
  constructor
  · intro hnone
    obtain ⟨first, hfirst⟩ := List.exists_mem_of_ne_nil children hsome
    exact (hchildren first hfirst).1 (List.flatMap_eq_nil_iff.mp hnone first hfirst)
  · intro found hfound
    obtain ⟨a, ha, hfound⟩ := List.mem_flatMap.mp hfound
    exact (hchildren a ha).2 found hfound

theorem values_field_insert (name : String) (child : Value) (fields : List (String × Value)) :
    values (.field name :: path) (.object (Keyed.insert name child fields)) =
      values path child := by
  rw [values, Value.field?_object_insert, if_pos rfl]

/-- Where there is no such field, a path that goes on below it leads as from null, nowhere. -/
theorem values_field (hpath : path ≠ []) (name : String) (tree : Value) :
    values (.field name :: path) tree = values path ((tree.field? name).getD .null) := by
  rw [values]
  cases tree.field? name with
  | some child => rfl
  | none =>
      cases path with
      | nil => exact absurd rfl hpath
      | cons segment rest => cases segment <;> rfl

theorem values_index (items : List Value) (position : Nat) :
    values (.index position :: path) (.list items) =
      match items[position]? with
      | some child => values path child
      | none => [] := rfl

theorem getElem?_set_of_getElem? {items : List Value} {item : Value} {position : Nat}
    (hitem : items[position]? = some item) (child : Value) :
    (items.set position child)[position]? = some child :=
  List.getElem?_set_self (List.getElem?_eq_some_iff.mp hitem).1

/-- What is written is read, and nothing else. -/
theorem leadsOnlyTo_of_write (hwrite : write new path tree = .ok written) :
    LeadsOnlyTo path written new := by
  induction path generalizing tree written with
  | nil =>
      cases hwrite
      exact ⟨List.cons_ne_nil _ _, fun _ hfound => List.mem_singleton.mp hfound⟩
  | cons segment rest ih =>
      cases write_cons_eq_ok_iff.mp hwrite with
      | field name htree hchild =>
          rw [LeadsOnlyTo, values_field_insert]
          exact ih hchild
      | index position hitem hchild =>
          rw [LeadsOnlyTo, values_index, getElem?_set_of_getElem? hitem]
          exact ih hchild
      | items hsome hitems =>
          exact leadsOnlyTo_flatMap (ne_nil_of_forall₂ hitems hsome)
            (forall_of_forall₂ hitems fun _ _ hitem => ih hitem)
      | fields hsome hfields =>
          exact leadsOnlyTo_flatMap (ne_nil_of_forall₂ hfields hsome)
            (forall_of_forall₂ hfields fun _ _ hpair => ih hpair.2)

/-- Of two writes at one path the last stays. -/
theorem write_write (hwrite : write new path tree = .ok written) (last : Value) :
    write last path written = write last path tree := by
  induction path generalizing tree written with
  | nil => rfl
  | cons segment rest ih =>
      cases write_cons_eq_ok_iff.mp hwrite with
      | field name htree hchild =>
          rw [write_field (.inr rfl), write_field htree, Value.field?_object_insert, if_pos rfl,
            Option.getD_some, ih hchild, Value.fields_object]
          simp only [Keyed.insert_insert]
      | index position hitem hchild =>
          rw [write_index (getElem?_set_of_getElem? hitem _), write_index hitem, ih hchild]
          simp only [List.set_set]
      | items hsome hitems =>
          rw [write_items (ne_nil_of_forall₂ hitems hsome), write_items hsome,
            mapItems_congr (hitems.imp fun _ _ hitem => ih hitem)]
      | fields hsome hfields =>
          rw [write_fields (ne_nil_of_forall₂ hfields hsome), write_fields hsome,
            mapFields_congr (hfields.imp fun _ _ hpair => ⟨hpair.1, ih hpair.2⟩)]

/-- Writing what is read already changes nothing. -/
theorem write_of_values (htree : tree.Canonical) (hplain : Segment.wildcard ∉ path)
    {value : Value} (hvalues : values path tree = [value]) : write value path tree = .ok tree := by
  induction path generalizing tree with
  | nil =>
      cases hvalues
      rfl
  | cons segment rest ih =>
      have hrest : Segment.wildcard ∉ rest := fun hmem => hplain (List.mem_cons_of_mem _ hmem)
      cases segment with
      | field name =>
          rw [values] at hvalues
          cases hchild : tree.field? name with
          | none =>
              rw [hchild] at hvalues
              cases hvalues
          | some child =>
              rw [hchild] at hvalues
              have hobject := Value.isObject_of_field? hchild
              have hsame : .object (Keyed.insert name child tree.fields) = tree := by
                rw [Keyed.insert_of_get? htree.sorted hchild,
                  Value.object_fields_of_isObject hobject]
              rw [write_field (.inr hobject), hchild, Option.getD_some,
                ih (htree.field? hchild) hrest hvalues]
              exact congrArg Except.ok hsame
      | index position =>
          cases tree with
          | list items =>
              rw [values_index] at hvalues
              cases hitem : items[position]? with
              | none =>
                  rw [hitem] at hvalues
                  cases hvalues
              | some item =>
                  rw [hitem] at hvalues
                  obtain ⟨hlt, rfl⟩ := List.getElem?_eq_some_iff.mp hitem
                  have hcanonical := Value.canonical_list_iff.mp htree _ (List.getElem_mem hlt)
                  have hsame : items.set position items[position] = items :=
                    List.set_getElem_self hlt
                  rw [write_index hitem, ih hcanonical hrest hvalues]
                  exact congrArg (fun items => Except.ok (Value.list items)) hsame
          | _ => cases hvalues
      | wildcard => exact absurd List.mem_cons_self hplain

/-! ## Paths that part -/

/-- At some place both paths have a segment, and not the same one. -/
def Parts (path other : Path) : Prop :=
  ∃ (place : Nat) (segment segment' : Segment),
    path[place]? = some segment ∧ other[place]? = some segment' ∧ segment ≠ segment'

theorem not_parts_nil (other : Path) : ¬ Parts [] other := by
  rintro ⟨place, segment, segment', hsegment, -, -⟩
  cases hsegment

theorem Parts.symm (hparts : Parts path other) : Parts other path := by
  obtain ⟨place, segment, segment', hsegment, hsegment', hne⟩ := hparts
  exact ⟨place, segment', segment, hsegment', hsegment, hne.symm⟩

theorem Parts.ne_nil (hparts : Parts path other) : path ≠ [] := by
  rintro rfl
  exact not_parts_nil other hparts

/-- Paths that begin alike part later. -/
theorem Parts.of_cons {segment : Segment}
    (hparts : Parts (segment :: path) (segment :: other)) : Parts path other := by
  obtain ⟨place, found, found', hfound, hfound', hne⟩ := hparts
  cases place with
  | zero =>
      cases hfound
      cases hfound'
      exact absurd rfl hne
  | succ place => exact ⟨place, found, found', hfound, hfound', hne⟩

/-- Where another path parts from the written one, it leads where it led before. -/
theorem values_write_of_parts (hparts : Parts path other) (hplain : Segment.wildcard ∉ path)
    (hother : Segment.wildcard ∉ other) (hwrite : write new path tree = .ok written) :
    values other written = values other tree := by
  induction path generalizing other tree written with
  | nil => exact absurd hparts (not_parts_nil other)
  | cons segment rest ih =>
      cases other with
      | nil => exact absurd hparts.symm (not_parts_nil _)
      | cons segment' others =>
          have hrest : Segment.wildcard ∉ rest := fun hmem => hplain (List.mem_cons_of_mem _ hmem)
          have hothers : Segment.wildcard ∉ others :=
            fun hmem => hother (List.mem_cons_of_mem _ hmem)
          cases write_cons_eq_ok_iff.mp hwrite with
          | field name htree hchild =>
              cases segment' with
              | field name' =>
                  by_cases hname : name' = name
                  · subst hname
                    have hlater := hparts.of_cons
                    rw [values_field_insert, values_field hlater.symm.ne_nil,
                      ih hlater hrest hothers hchild]
                  · rw [values, values, Value.field?_object_insert, if_neg hname, Value.field?]
              | index position =>
                  rcases htree with rfl | hobject
                  · rfl
                  · rw [← Value.object_fields_of_isObject hobject]
                    rfl
              | wildcard => exact absurd List.mem_cons_self hother
          | index position hitem hchild =>
              cases segment' with
              | field name => rfl
              | index position' =>
                  by_cases hposition : position = position'
                  · subst hposition
                    rw [values_index, values_index, getElem?_set_of_getElem? hitem, hitem]
                    exact ih hparts.of_cons hrest hothers hchild
                  · rw [values_index, values_index, List.getElem?_set_ne hposition]
              | wildcard => exact absurd List.mem_cons_self hother
          | items => exact absurd List.mem_cons_self hplain
          | fields => exact absurd List.mem_cons_self hplain

end Path

/-! ## Paths as text -/

namespace Value

variable {tree written new : Value} {path : String}

theorem setAt_eq_ok_iff :
    tree.setAt path new = .ok written ↔
      ∃ segments, Path.read path = .ok segments ∧ Path.write new segments tree = .ok written := by
  unfold setAt
  cases Path.read path with
  | error error => exact iff_of_false nofun (by rintro ⟨_, hread, -⟩; cases hread)
  | ok segments => simp [mapError_eq_ok_iff]

theorem valuesAt_of_read {segments : Path} (hread : Path.read path = .ok segments) (tree : Value) :
    tree.valuesAt path = .ok (Path.values segments tree) := by
  rw [valuesAt, hread]
  rfl

theorem setAt_of_read {segments : Path} (hread : Path.read path = .ok segments) (tree new : Value) :
    tree.setAt path new = (Path.write new segments tree).mapError (.cannotWrite path) := by
  rw [setAt, hread]

/-- What is written at a path is read there, wherever the path leads, and nothing else is; and of
two writes there the last stays.  In a tree in order, writing what is the one value there already
changes nothing. -/
theorem setAt_lens (tree : Value) (path : String) :
    (∀ new written, tree.setAt path new = .ok written →
      (∃ found, written.valuesAt path = .ok found ∧ found ≠ [] ∧ ∀ value ∈ found, value = new) ∧
      ∀ last, written.setAt path last = tree.setAt path last) ∧
    (tree.Canonical → ∀ segments, Path.read path = .ok segments → Segment.wildcard ∉ segments →
      ∀ value, tree.valuesAt path = .ok [value] → tree.setAt path value = .ok tree) := by
  constructor
  · intro new written hset
    obtain ⟨segments, hread, hwrite⟩ := setAt_eq_ok_iff.mp hset
    refine ⟨⟨_, valuesAt_of_read hread written, Path.leadsOnlyTo_of_write hwrite⟩, fun last => ?_⟩
    rw [setAt_of_read hread, setAt_of_read hread, Path.write_write hwrite]
  · intro htree segments hread hplain value hvalue
    rw [valuesAt_of_read hread] at hvalue
    exact setAt_eq_ok_iff.mpr
      ⟨segments, hread, Path.write_of_values htree hplain (Except.ok.inj hvalue)⟩

/-- Two orders, one of them with an owner of whom nothing is known. -/
def orderBook : Value :=
  .object [("orders", .list [.object [("owner", .null), ("paid", .bool true)],
    .object [("paid", .bool false)]])]

/-- Both orders get an owner with a name, and the name is replaced as if it had not been there; an
order that is not paid stays so. -/
theorem orderBook_lens :
    (∃ written, orderBook.setAt "$.orders[*].owner.name" (.string "Ada") = .ok written ∧
      (∃ found, written.valuesAt "$.orders[*].owner.name" = .ok found ∧ found ≠ [] ∧
        ∀ value ∈ found, value = .string "Ada") ∧
      written.setAt "$.orders[*].owner.name" .null =
        orderBook.setAt "$.orders[*].owner.name" .null) ∧
    orderBook.valuesAt "orders[1]['paid']" = .ok [.bool false] ∧
    orderBook.setAt "orders[1]['paid']" (.bool false) = .ok orderBook := by
  obtain ⟨written, hset⟩ : ∃ written,
      orderBook.setAt "$.orders[*].owner.name" (.string "Ada") = .ok written :=
    ⟨.object [("orders", .list [
      .object [("owner", .object [("name", .string "Ada")]), ("paid", .bool true)],
      .object [("owner", .object [("name", .string "Ada")]), ("paid", .bool false)]])],
      by decide +kernel⟩
  have hpaid : orderBook.valuesAt "orders[1]['paid']" = .ok [.bool false] := by decide +kernel
  have hordered : orderBook.Canonical := by decide +kernel
  obtain ⟨hread, hlast⟩ := (setAt_lens orderBook "$.orders[*].owner.name").1 _ _ hset
  refine ⟨⟨written, hset, hread, hlast .null⟩, hpaid, ?_⟩
  exact (setAt_lens orderBook "orders[1]['paid']").2 hordered
    [.field "orders", .index 1, .field "paid"] (by decide +kernel) (by decide) _ hpaid

/-- A write leaves what is read at a path that parts from the written one, whatever it puts there
and whatever it makes on its way. -/
theorem setAt_elsewhere {other : String} {segments others : Path}
    (hpath : Path.read path = .ok segments) (hother : Path.read other = .ok others)
    (hplain : Segment.wildcard ∉ segments) (hplain' : Segment.wildcard ∉ others)
    (hparts : Path.Parts segments others) (hset : tree.setAt path new = .ok written) :
    written.valuesAt other = tree.valuesAt other := by
  rw [setAt_of_read hpath, mapError_eq_ok_iff] at hset
  rw [valuesAt_of_read hother, valuesAt_of_read hother,
    Path.values_write_of_parts hparts hplain hplain' hset]

/-- An owner of whom nothing was known gets a name, and the order is as paid as before. -/
theorem orderBook_elsewhere :
    ∃ written, orderBook.setAt "$.orders[0].owner.name" (.string "Ada") = .ok written ∧
      written.valuesAt "$.orders[0].owner" = .ok [.object [("name", .string "Ada")]] ∧
      orderBook.valuesAt "orders[0]['paid']" = .ok [.bool true] ∧
      written.valuesAt "orders[0]['paid']" = orderBook.valuesAt "orders[0]['paid']" := by
  let segments : Path := [.field "orders", .index 0, .field "owner", .field "name"]
  let others : Path := [.field "orders", .index 0, .field "paid"]
  have hpath : Path.read "$.orders[0].owner.name" = .ok segments := by decide +kernel
  have hother : Path.read "orders[0]['paid']" = .ok others := by decide +kernel
  have hparts : segments.Parts others := ⟨2, .field "owner", .field "paid", rfl, rfl, by decide⟩
  have hset : orderBook.setAt "$.orders[0].owner.name" (.string "Ada") =
      .ok (.object [("orders", .list [
        .object [("owner", .object [("name", .string "Ada")]), ("paid", .bool true)],
        .object [("paid", .bool false)]])]) := by
    decide +kernel
  exact ⟨_, hset, by decide +kernel, by decide +kernel,
    setAt_elsewhere hpath hother (by decide) (by decide) hparts hset⟩

end Value

end Workflow
