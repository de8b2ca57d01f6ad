import Mathlib.Data.List.Forall2
import Workflow.Proofs.Value.Fields

/-!
# Writing one segment after another

What a write does at the first segment of its path is told by what it does below it,
`Segment.Rewrites`.  A field is stored in the object, and null is taken for the object without
fields; an item is put in its place; a wildcard rewrites every child of a list or object that has
any.  Nothing else can be written.
-/

namespace Workflow

/-- A tree is rewritten at a segment, as `below` says of the children it leads to. -/
inductive Segment.Rewrites (below : Value → Value → Prop) : Segment → Value → Value → Prop
  | field {tree child : Value} (name : String) (htree : tree = .null ∨ tree.isObject = true)
      (hchild : below ((tree.field? name).getD .null) child) :
      Rewrites below (.field name) tree (.object (Keyed.insert name child tree.fields))
  | index {items : List Value} {item child : Value} (position : Nat)
      (hitem : items[position]? = some item) (hchild : below item child) :
      Rewrites below (.index position) (.list items) (.list (items.set position child))
  | items {items items' : List Value} (hsome : items ≠ []) (hitems : items.Forall₂ below items') :
      Rewrites below .wildcard (.list items) (.list items')
  | fields {fields fields' : List (String × Value)} (hsome : fields ≠ [])
      (hfields : fields.Forall₂ (fun pair pair' => pair'.1 = pair.1 ∧ below pair.2 pair'.2)
        fields') :
      Rewrites below .wildcard (.object fields) (.object fields')

namespace Path

theorem forall_of_forall₂ {α β : Type} {R : α → β → Prop} {P : β → Prop} {as : List α}
    {bs : List β} (hall : as.Forall₂ R bs) (himp : ∀ a b, R a b → P b) : ∀ b ∈ bs, P b := by
  induction hall with
  | nil => simp
  | cons hfirst _ ih => exact List.forall_mem_cons.mpr ⟨himp _ _ hfirst, ih⟩

theorem ne_nil_of_forall₂ {α β : Type} {R : α → β → Prop} {as : List α} {bs : List β}
    (hall : as.Forall₂ R bs) (hsome : as ≠ []) : bs ≠ [] := by
  rintro rfl
  exact hsome (List.forall₂_nil_right_iff.mp hall)

section Changes

variable {change : Value → Except WriteFault Value}

theorem mapItems_eq_ok_iff {items items' : List Value} :
    mapItems change items = .ok items' ↔
      items.Forall₂ (fun item item' => change item = .ok item') items' := by
  induction items generalizing items' with
  | nil =>
      rw [mapItems, List.forall₂_nil_left_iff, Except.ok.injEq, eq_comm]
  | cons item rest ih =>
      rw [mapItems, List.forall₂_cons_left_iff]
      cases change item with
      | error fault => exact iff_of_false nofun (by rintro ⟨_, _, hitem, -⟩; cases hitem)
      | ok changed =>
          constructor
          · intro hmap
            obtain ⟨rest', hrest, rfl⟩ := exists_of_map_eq_ok hmap
            exact ⟨changed, rest', rfl, ih.mp hrest, rfl⟩
          · rintro ⟨_, rest', hitem, hrest, rfl⟩
            cases hitem
            dsimp only
            rw [ih.mpr hrest]
            rfl

theorem mapFields_eq_ok_iff {fields fields' : List (String × Value)} :
    mapFields change fields = .ok fields' ↔
      fields.Forall₂ (fun pair pair' => pair'.1 = pair.1 ∧ change pair.2 = .ok pair'.2)
        fields' := by
  induction fields generalizing fields' with
  | nil =>
      rw [mapFields, List.forall₂_nil_left_iff, Except.ok.injEq, eq_comm]
  | cons pair rest ih =>
      obtain ⟨key, child⟩ := pair
      rw [mapFields, List.forall₂_cons_left_iff]
      cases change child with
      | error fault => exact iff_of_false nofun (by rintro ⟨_, _, ⟨-, hchild⟩, -⟩; cases hchild)
      | ok changed =>
          constructor
          · intro hmap
            obtain ⟨rest', hrest, rfl⟩ := exists_of_map_eq_ok hmap
            exact ⟨(key, changed), rest', ⟨rfl, rfl⟩, ih.mp hrest, rfl⟩
          · rintro ⟨⟨_, _⟩, rest', ⟨hkey, hchild⟩, hrest, rfl⟩
            cases hkey
            cases hchild
            dsimp only
            rw [ih.mpr hrest]
            rfl

/-- Items that are changed alike come to the same list. -/
theorem mapItems_congr {items items' : List Value}
    (hitems : items.Forall₂ (fun item item' => change item' = change item) items') :
    mapItems change items' = mapItems change items := by
  induction hitems with
  | nil => rfl
  | cons hitem _ ih => rw [mapItems, mapItems, hitem, ih]

/-- Fields that are changed alike come to the same table. -/
theorem mapFields_congr {fields fields' : List (String × Value)}
    (hfields : fields.Forall₂ (fun pair pair' => pair'.1 = pair.1 ∧ change pair'.2 = change pair.2)
      fields') :
    mapFields change fields' = mapFields change fields := by
  induction hfields with
  | nil => rfl
  | cons hpair _ ih => rw [mapFields, mapFields, hpair.1, hpair.2, ih]

end Changes

variable {path : Path} {tree written new : Value}

/-! ## The first segment -/

theorem write_field (htree : tree = .null ∨ tree.isObject = true) (name : String) :
    write new (.field name :: path) tree =
      (write new path ((tree.field? name).getD .null)).map fun child =>
        .object (Keyed.insert name child tree.fields) := by
  rcases htree with rfl | hobject
  · rfl
  · rw [← Value.object_fields_of_isObject hobject]
    rfl

theorem write_index {items : List Value} {item : Value} {position : Nat}
    (hitem : items[position]? = some item) :
    write new (.index position :: path) (.list items) =
      (write new path item).map fun child => .list (items.set position child) := by
  rw [write, hitem]

theorem write_items {items : List Value} (hsome : items ≠ []) :
    write new (.wildcard :: path) (.list items) =
      (mapItems (write new path) items).map .list := by
  cases items with
  | nil => exact absurd rfl hsome
  | cons item rest => rfl

theorem write_fields {fields : List (String × Value)} (hsome : fields ≠ []) :
    write new (.wildcard :: path) (.object fields) =
      (mapFields (write new path) fields).map .object := by
  cases fields with
  | nil => exact absurd rfl hsome
  | cons pair rest => rfl

/-- A write succeeds at a segment exactly if it rewrites the tree there and succeeds below. -/
theorem write_cons_eq_ok_iff {segment : Segment} :
    write new (segment :: path) tree = .ok written ↔
      segment.Rewrites (fun child child' => write new path child = .ok child') tree written := by
  constructor
  · intro hwrite
    cases segment with
    | field name =>
        have htree : tree = .null ∨ tree.isObject = true := by
          cases tree with
          | null => exact .inl rfl
          | object fields => exact .inr rfl
          | _ => cases hwrite
        rw [write_field htree] at hwrite
        obtain ⟨child, hchild, rfl⟩ := exists_of_map_eq_ok hwrite
        exact .field name htree hchild
    | index position =>
        cases tree with
        | list items =>
            cases hitem : items[position]? with
            | none =>
                rw [write, hitem] at hwrite
                cases hwrite
            | some item =>
                rw [write_index hitem] at hwrite
                obtain ⟨child, hchild, rfl⟩ := exists_of_map_eq_ok hwrite
                exact .index position hitem hchild
        | _ => cases hwrite
    | wildcard =>
        cases tree with
        | list items =>
            have hsome : items ≠ [] := by
              rintro rfl
              cases hwrite
            rw [write_items hsome] at hwrite
            obtain ⟨items', hitems, rfl⟩ := exists_of_map_eq_ok hwrite
            exact .items hsome (mapItems_eq_ok_iff.mp hitems)
        | object fields =>
            have hsome : fields ≠ [] := by
              rintro rfl
              cases hwrite
            rw [write_fields hsome] at hwrite
            obtain ⟨fields', hfields, rfl⟩ := exists_of_map_eq_ok hwrite
            exact .fields hsome (mapFields_eq_ok_iff.mp hfields)
        | _ => cases hwrite
  · intro hrewrites
    cases hrewrites with
    | field name htree hchild =>
        rw [write_field htree, hchild]
        rfl
    | index position hitem hchild =>
        rw [write_index hitem, hchild]
        rfl
    | items hsome hitems =>
        rw [write_items hsome, mapItems_eq_ok_iff.mpr hitems]
        rfl
    | fields hsome hfields =>
        rw [write_fields hsome, mapFields_eq_ok_iff.mpr hfields]
        rfl

end Path

end Workflow
