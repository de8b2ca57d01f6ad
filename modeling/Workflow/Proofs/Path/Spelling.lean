import Workflow.Path.Reader
import Workflow.Proofs.Text.Trimming
import Workflow.Proofs.Value.Fields

/-!
# Spellings of a path

`Path.Spells` says which texts write which paths once the dollar sign and the blanks around are
gone: a point before the name of a field, or a bracket around an index, a key in quotes or a star.
The reader gives a path exactly for the texts that spell it.
-/

namespace Workflow.Path

/-- A text writes the segments of a path one after another. -/
inductive Spells : List Char → Path → Prop
  | nil : Spells [] []
  | field {name after : List Char} {path : Path} (hsome : name ≠ [])
      (hinside : ∀ c ∈ name, endsField c = false) (hafter : Spells after path) :
      Spells ('.' :: (name ++ after)) (fieldSegment name :: path)
  | bracket {inner after : List Char} {segment : Segment} {path : Path} (hinside : ']' ∉ inner)
      (hinner : readBracket (Text.trim inner) = .ok segment) (hafter : Spells after path) :
      Spells ('[' :: (inner ++ ']' :: after)) (segment :: path)

variable {text name inner before after : List Char} {path : Path} {offset fuel : Nat}

/-- A segment begins with a character that ends the name of a field before it. -/
theorem Spells.endsField_of_head? (hspells : Spells text path) {c : Char}
    (hhead : text.head? = some c) : endsField c = true := by
  cases hspells with
  | nil => cases hhead
  | field | bracket =>
      cases hhead
      rfl

/-! ## One segment -/

theorem splitAtMark?_append {mark : Char} (hinside : mark ∉ before) (after : List Char) :
    splitAtMark? mark (before ++ mark :: after) = some (before, after) := by
  induction before with
  | nil => rw [List.nil_append, splitAtMark?, if_pos rfl]
  | cons c before ih =>
      obtain ⟨hc, hbefore⟩ := not_or.mp (List.mem_cons.not.mp hinside)
      rw [List.cons_append, splitAtMark?, if_neg (Ne.symm hc), ih hbefore]
      rfl

theorem eq_append_of_splitAtMark? {mark : Char}
    (hsplit : splitAtMark? mark text = some (before, after)) :
    text = before ++ mark :: after ∧ mark ∉ before := by
  induction text generalizing before with
  | nil => cases hsplit
  | cons c rest ih =>
      rw [splitAtMark?] at hsplit
      split_ifs at hsplit with hc
      · cases hsplit
        exact ⟨by rw [hc, List.nil_append], List.not_mem_nil⟩
      · obtain ⟨⟨between, after'⟩, hrest, hsame⟩ := Option.map_eq_some_iff.mp hsplit
        cases hsame
        obtain ⟨rfl, hnot⟩ := ih hrest
        exact ⟨rfl, List.mem_cons.not.mpr (not_or.mpr ⟨Ne.symm hc, hnot⟩)⟩

/-- The name of a field reaches as far as nothing ends it. -/
theorem takeWhile_name (hinside : ∀ c ∈ name, endsField c = false)
    (hafter : ∀ c, after.head? = some c → endsField c = true) :
    (name ++ after).takeWhile (!endsField ·) = name := by
  rw [List.takeWhile_append_of_pos (by simpa using hinside)]
  cases after with
  | nil => simp
  | cons c after => simp [hafter c rfl]

theorem readSegments_nil : readSegments offset fuel [] = .ok [] := by
  cases fuel <;> rfl

/-- A field is read, and the rest behind it. -/
theorem readSegments_field (hsome : name ≠ []) (hinside : ∀ c ∈ name, endsField c = false)
    (hafter : ∀ c, after.head? = some c → endsField c = true) :
    readSegments offset (fuel + 1) ('.' :: (name ++ after)) =
      (readSegments (offset + 1 + name.length) fuel after).map (fieldSegment name :: ·) := by
  rw [readSegments, takeWhile_name hinside hafter, List.drop_left, if_neg (by simpa using hsome)]
  rfl

/-- A bracket is read up to the first that closes one, and then the rest behind it. -/
theorem readSegments_bracket (hinside : ']' ∉ inner) :
    readSegments offset (fuel + 1) ('[' :: (inner ++ ']' :: after)) =
      (readBracket (Text.trim inner)).bind fun segment =>
        (readSegments (offset + 2 + inner.length) fuel after).map (segment :: ·) := by
  rw [readSegments, splitAtMark?_append hinside]
  rfl

theorem exists_of_readSegments_field
    (hread : readSegments offset (fuel + 1) ('.' :: text) = .ok path) :
    ∃ name after rest, text = name ++ after ∧ name ≠ [] ∧ (∀ c ∈ name, endsField c = false) ∧
      readSegments (offset + 1 + name.length) fuel after = .ok rest ∧
      path = fieldSegment name :: rest := by
  let name := text.takeWhile (!endsField ·)
  rw [readSegments] at hread
  split_ifs at hread with hempty
  have hmap : (readSegments (offset + 1 + name.length) fuel (text.drop name.length)).map
      (fieldSegment name :: ·) = .ok path := hread
  obtain ⟨rest, hrest, rfl⟩ := exists_of_map_eq_ok hmap
  have hsplit : name ++ text.drop name.length = text :=
    List.prefix_iff_eq_append.mp (List.takeWhile_prefix _)
  refine ⟨name, text.drop name.length, rest, hsplit.symm, ?_, fun c hc => ?_, hrest, rfl⟩
  · exact fun hnil => hempty (List.isEmpty_iff.mpr hnil)
  · simpa using List.mem_takeWhile_imp hc

theorem exists_of_readSegments_bracket
    (hread : readSegments offset (fuel + 1) ('[' :: text) = .ok path) :
    ∃ inner after segment rest, text = inner ++ ']' :: after ∧ ']' ∉ inner ∧
      readBracket (Text.trim inner) = .ok segment ∧
      readSegments (offset + 2 + inner.length) fuel after = .ok rest ∧ path = segment :: rest := by
  rw [readSegments] at hread
  split at hread
  · cases hread
  · next inner after hsplit =>
      obtain ⟨htext, hinside⟩ := eq_append_of_splitAtMark? hsplit
      cases hinner : readBracket (Text.trim inner) with
      | error fault =>
          rw [hinner] at hread
          cases hread
      | ok segment =>
          rw [hinner] at hread
          have hmap : (readSegments (offset + 2 + inner.length) fuel after).map
              (segment :: ·) = .ok path := hread
          obtain ⟨rest, hrest, rfl⟩ := exists_of_map_eq_ok hmap
          exact ⟨inner, after, segment, rest, htext, hinside, hinner, hrest, rfl⟩

/-! ## All segments -/

/-- A text that spells a path is read as that path. -/
theorem Spells.readSegments (hspells : Spells text path) (hfuel : text.length ≤ fuel) :
    readSegments offset fuel text = .ok path := by
  induction hspells generalizing offset fuel with
  | nil => exact readSegments_nil
  | field hsome hinside hafter ih =>
      cases fuel with
      | zero => exact absurd hfuel (Nat.not_succ_le_zero _)
      | succ fuel =>
          simp only [List.length_cons, List.length_append] at hfuel
          rw [readSegments_field hsome hinside fun c => hafter.endsField_of_head?, ih (by omega)]
          rfl
  | bracket hinside hinner hafter ih =>
      cases fuel with
      | zero => exact absurd hfuel (Nat.not_succ_le_zero _)
      | succ fuel =>
          simp only [List.length_cons, List.length_append] at hfuel
          rw [readSegments_bracket hinside, hinner, Except.bind, ih (by omega)]
          rfl

/-- What is read as a path spells it. -/
theorem spells_of_readSegments (hread : readSegments offset fuel text = .ok path) :
    Spells text path := by
  induction fuel generalizing offset text path with
  | zero =>
      cases text with
      | nil =>
          cases hread
          exact .nil
      | cons => cases hread
  | succ fuel ih =>
      cases text with
      | nil =>
          cases hread
          exact .nil
      | cons c text =>
          by_cases hpoint : c = '.'
          · subst hpoint
            obtain ⟨name, after, rest, rfl, hsome, hinside, hafter, rfl⟩ :=
              exists_of_readSegments_field hread
            exact .field hsome hinside (ih hafter)
          · by_cases hopening : c = '['
            · subst hopening
              obtain ⟨inner, after, segment, rest, rfl, hinside, hinner, hafter, rfl⟩ :=
                exists_of_readSegments_bracket hread
              exact .bracket hinside hinner (ih hafter)
            · rw [readSegments] at hread
              · cases hread
              · exact hpoint
              · exact hopening

theorem readSegments_eq_ok_iff (hfuel : text.length ≤ fuel) :
    readSegments offset fuel text = .ok path ↔ Spells text path :=
  ⟨spells_of_readSegments, fun hspells => hspells.readSegments hfuel⟩

/-! ## Path text -/

theorem isBlank_of_endsField {c : Char} (hc : endsField c = true) : Text.isBlank c = false := by
  simp only [endsField, Bool.or_eq_true, beq_iff_eq] at hc
  rcases hc with rfl | rfl <;> decide

theorem readBody_cons {c : Char} (hc : endsField c = true) (text : List Char) :
    readBody (c :: text) = readSegments 0 (c :: text).length (c :: text) := by
  rw [readBody, if_pos hc]

/-- A text that begins with a segment is read from there on, without the blanks at its end. -/
theorem read_of_endsField {c : Char} (hc : endsField c = true) (text : List Char) :
    read (String.ofList (c :: text)) =
      (readBody (c :: Text.trimEnd text)).mapError (.badPath (String.ofList (c :: text))) := by
  have hdollar : c ≠ '$' := by
    rintro rfl
    exact absurd hc (by decide)
  unfold read
  rw [String.toList_ofList, Text.trim_cons (isBlank_of_endsField hc)]
  dsimp only
  split
  · next rest hrest => exact absurd (List.cons.inj hrest).1 hdollar
  · rfl

/-- The dollar sign before the first segment makes no difference. -/
theorem read_dollar {c : Char} (hc : endsField c = true) (text : List Char) :
    read (String.ofList ('$' :: c :: text)) =
      (readBody (c :: Text.trimEnd text)).mapError
        (.badPath (String.ofList ('$' :: c :: text))) := by
  unfold read
  rw [String.toList_ofList, Text.trim_cons (by decide), Text.trimEnd_cons (isBlank_of_endsField hc)]
  rfl

end Workflow.Path
