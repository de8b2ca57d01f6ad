import Workflow.Proofs.Path.Spelling

/-!
# Paths that are read back

The text of a path is read as the path itself exactly if the names of its fields are plain: they are
not empty and no star, nothing in them ends a field, and no blank at the end of the last one is lost
to trimming.
-/

namespace Workflow.Path

/-- A name that stands behind a point as it is. -/
structure PlainName (name : String) : Prop where
  nonempty : name ≠ ""
  not_star : name ≠ "*"
  no_point : '.' ∉ name.toList
  no_bracket : '[' ∉ name.toList

/-- The last character of a name is white space. -/
def EndsBlank (name : String) : Prop :=
  ∃ c, name.toList.getLast? = some c ∧ Text.isBlank c = true

variable {path : Path} {text : List Char} {name : String}

theorem plainName_iff :
    PlainName name ↔
      name.toList ≠ [] ∧ name.toList ≠ ['*'] ∧ ∀ c ∈ name.toList, endsField c = false := by
  constructor
  · intro hplain
    refine ⟨by simpa using hplain.nonempty, fun hstar => hplain.not_star ?_, fun c hc => ?_⟩
    · exact String.toList_inj.mp hstar
    · simp only [endsField, Bool.or_eq_false_iff, beq_eq_false_iff_ne]
      constructor
      · rintro rfl
        exact hplain.no_point hc
      · rintro rfl
        exact hplain.no_bracket hc
  · rintro ⟨hsome, hstar, hinside⟩
    refine ⟨by simpa using hsome, ?_, fun hc => ?_, fun hc => ?_⟩
    · rintro rfl
      exact hstar rfl
    · exact absurd (hinside _ hc) (by decide)
    · exact absurd (hinside _ hc) (by decide)

/-! ## Indices -/

theorem isBlank_of_isDigit {c : Char} (hc : c.isDigit = true) : Text.isBlank c = false := by
  simp only [Char.isDigit, Bool.and_eq_true, decide_eq_true_eq] at hc
  have hlow : 48 ≤ c.toNat := hc.1
  have hhigh : c.toNat ≤ 57 := hc.2
  simp only [Text.isBlank, Text.inRanges, Text.blankRanges, List.any_cons, List.any_nil,
    Bool.or_eq_false_iff, Bool.and_eq_false_iff, decide_eq_false_iff_not, and_true]
  omega

/-- What is no digit does not stand among the digits of an index. -/
theorem not_mem_toDigits {c : Char} (hc : c.isDigit = false) (position : Nat) :
    c ∉ Nat.toDigits 10 position := by
  intro hmem
  rw [Nat.isDigit_of_mem_toDigits (by decide) (by decide) hmem] at hc
  cases hc

/-- The digits of an index are read as the index. -/
theorem readIndex?_toDigits {position : Nat} (hsize : position < Nat.pow 2 64) :
    readIndex? (Nat.toDigits 10 position) = some position := by
  have hsome : (Nat.toDigits 10 position).isEmpty = false :=
    List.isEmpty_eq_false_iff.mpr Nat.toDigits_ne_nil
  have hdigits : (Nat.toDigits 10 position).all Char.isDigit = true :=
    List.all_eq_true.mpr fun c => Nat.isDigit_of_mem_toDigits (by decide) (by decide)
  have hvalue : (Nat.toDigits 10 position).foldl
      (fun n c => 10 * n + (c.toNat - '0'.toNat)) 0 = position := by
    rw [← Nat.ofDigitChars_eq_foldl, Nat.ofDigitChars_ten_toDigits]
  unfold readIndex?
  split
  · next rest hplus =>
      have hmem : '+' ∈ Nat.toDigits 10 position := by
        rw [hplus]
        exact List.mem_cons_self
      exact absurd hmem (not_mem_toDigits (by decide) position)
  · dsimp only
    rw [hsome, hdigits, hvalue]
    exact (if_pos rfl).trans (if_pos hsize)

theorem trim_toDigits (position : Nat) :
    Text.trim (Nat.toDigits 10 position) = Nat.toDigits 10 position := by
  obtain ⟨c, rest, hdigits⟩ :=
    List.exists_cons_of_ne_nil (Nat.toDigits_ne_nil (n := position) (b := 10))
  have hblank : ∀ c ∈ Nat.toDigits 10 position, Text.isBlank c = false :=
    fun c hc => isBlank_of_isDigit (Nat.isDigit_of_mem_toDigits (by decide) (by decide) hc)
  rw [hdigits] at hblank ⊢
  have hc : Text.isBlank c = false := hblank c List.mem_cons_self
  rw [Text.trim_cons hc, ← Text.trimEnd_cons hc]
  exact Text.trimEnd_eq_self_iff.mpr fun c hc => hblank c (List.mem_of_getLast? hc)

theorem isBetween_toDigits {mark : Char} (hmark : mark.isDigit = false) (position : Nat) :
    isBetween mark (Nat.toDigits 10 position) = false := by
  have hhead : (Nat.toDigits 10 position).head? ≠ some mark :=
    fun hhead => not_mem_toDigits hmark position (List.mem_of_head? hhead)
  simp [isBetween, hhead]

theorem readBracket_toDigits {position : Nat} (hsize : position < Nat.pow 2 64) :
    readBracket (Text.trim (Nat.toDigits 10 position)) = .ok (.index position) := by
  have hstar : Nat.toDigits 10 position ≠ ['*'] := by
    intro hstar
    have hmem : '*' ∈ Nat.toDigits 10 position := by
      rw [hstar]
      exact List.mem_cons_self
    exact not_mem_toDigits (by decide) position hmem
  rw [trim_toDigits, readBracket, if_neg hstar, isBetween_toDigits (by decide),
    isBetween_toDigits (by decide), readIndex?_toDigits hsize]
  rfl

/-! ## The text of a path -/

theorem field_or_bracket (segment : Segment) :
    (∃ name, segment = .field name) ∨
      ∃ inner, ']' ∉ inner ∧ segment.text = '[' :: (inner ++ [']']) := by
  cases segment with
  | field name => exact .inl ⟨name, rfl⟩
  | index position =>
      exact .inr ⟨Nat.toDigits 10 position, not_mem_toDigits (by decide) position, rfl⟩
  | wildcard => exact .inr ⟨['*'], by decide, rfl⟩

/-- The text of a path with plain names spells the path. -/
theorem spells_text (hsize : ∀ position, .index position ∈ path → position < Nat.pow 2 64)
    (hplain : ∀ name, .field name ∈ path → PlainName name) :
    Spells (path.flatMap Segment.text) path := by
  induction path with
  | nil => exact .nil
  | cons segment rest ih =>
      have hrest : Spells (rest.flatMap Segment.text) rest :=
        ih (fun position hmem => hsize position (List.mem_cons_of_mem _ hmem))
          fun name hmem => hplain name (List.mem_cons_of_mem _ hmem)
      rw [List.flatMap_cons]
      cases segment with
      | field name =>
          obtain ⟨hsome, hstar, hinside⟩ := plainName_iff.mp (hplain name List.mem_cons_self)
          have hfield := Spells.field hsome hinside hrest
          rwa [fieldSegment, if_neg hstar, String.ofList_toList] at hfield
      | index position =>
          have hinner := readBracket_toDigits (hsize position List.mem_cons_self)
          have hbracket := Spells.bracket (not_mem_toDigits (by decide) position) hinner hrest
          rwa [List.append_cons] at hbracket
      | wildcard => exact Spells.bracket (by decide : ']' ∉ ['*']) rfl hrest

/-- Of two brackets one of which begins the other, both have the same inside. -/
theorem prefix_of_bracket {inner inner' after after' : List Char} (hinside : ']' ∉ inner)
    (hinside' : ']' ∉ inner')
    (hbegins : inner ++ ']' :: after <+: inner' ++ ']' :: after') :
    inner = inner' ∧ after <+: after' := by
  obtain ⟨beyond, hbeyond⟩ := hbegins
  rw [List.append_assoc, List.cons_append] at hbeyond
  have hsplit := congrArg (splitAtMark? ']') hbeyond
  rw [splitAtMark?_append hinside, splitAtMark?_append hinside', Option.some.injEq,
    Prod.mk.injEq] at hsplit
  exact ⟨hsplit.1, beyond, hsplit.2⟩

/-- A beginning of the text of a path that spells the path is all of it, and then the names of the
path are plain. -/
theorem text_of_spells_prefix (hspells : Spells text path)
    (hbegins : text <+: path.flatMap Segment.text) :
    text = path.flatMap Segment.text ∧ ∀ name, .field name ∈ path → PlainName name := by
  induction hspells with
  | nil => exact ⟨rfl, by simp⟩
  | @field name after path hsome hinside hafter ih =>
      rw [List.flatMap_cons] at hbegins ⊢
      by_cases hstar : name = ['*']
      · rw [fieldSegment, if_pos hstar] at hbegins
        exact absurd (List.cons_prefix_cons.mp hbegins).1 (by decide)
      · have htext : Segment.text (fieldSegment name) = '.' :: name := by
          rw [fieldSegment, if_neg hstar, Segment.text, String.toList_ofList]
        rw [htext, List.cons_append, List.cons_prefix_cons, List.prefix_append_right_inj] at hbegins
        obtain ⟨rfl, hnames⟩ := ih hbegins.2
        refine ⟨by rw [htext, List.cons_append], fun other hmem => ?_⟩
        rcases List.mem_cons.mp hmem with hother | hmem
        · rw [fieldSegment, if_neg hstar, Segment.field.injEq] at hother
          rw [plainName_iff, hother, String.toList_ofList]
          exact ⟨hsome, hstar, hinside⟩
        · exact hnames other hmem
  | @bracket inner after segment path hinside hinner hafter ih =>
      rw [List.flatMap_cons] at hbegins ⊢
      rcases field_or_bracket segment with ⟨name, rfl⟩ | ⟨inner', hinside', htext⟩
      · exact absurd (List.cons_prefix_cons.mp hbegins).1 (by decide)
      · rw [htext, List.cons_append, List.append_assoc, List.singleton_append,
          List.cons_prefix_cons] at hbegins
        obtain ⟨rfl, hafter'⟩ := prefix_of_bracket hinside hinside' hbegins.2
        obtain ⟨rfl, hnames⟩ := ih hafter'
        refine ⟨by rw [htext]; simp, fun name hmem => ?_⟩
        rcases List.mem_cons.mp hmem with rfl | hmem
        · cases htext
        · exact hnames name hmem

/-- The last name decides whether trimming takes something away at the end. -/
theorem trimEnd_text_eq_self_iff (hplain : ∀ name, .field name ∈ path → PlainName name) :
    Text.trimEnd (path.flatMap Segment.text) = path.flatMap Segment.text ↔
      ∀ name, path.getLast? = some (.field name) → ¬ EndsBlank name := by
  rw [Text.trimEnd_eq_self_iff]
  cases path using List.reverseRecOn with
  | nil => simp
  | append_singleton front last =>
      rw [List.flatMap_append, List.flatMap_singleton, List.getLast?_concat]
      rcases field_or_bracket last with ⟨name, rfl⟩ | ⟨inner, -, htext⟩
      · have hsome := (plainName_iff.mp (hplain name (by simp))).1
        rw [Segment.text, List.append_cons, List.getLast?_append_of_ne_nil _ hsome]
        constructor
        · rintro hlast _ hname ⟨c, hc, hblank⟩
          cases hname
          rw [hlast c hc] at hblank
          cases hblank
        · intro hlast c hc
          exact Bool.eq_false_iff.mpr fun hblank => hlast name rfl ⟨c, hc, hblank⟩
      · rw [htext, ← List.cons_append, ← List.append_assoc, List.getLast?_concat]
        refine iff_of_true ?_ ?_
        · rintro c hc
          cases hc
          decide
        · rintro name hname
          cases hname
          cases htext

/-- The text of a path is read up to the blanks at its end. -/
theorem read_text_eq_ok_iff :
    read path.text = .ok path ↔ Spells (Text.trimEnd (path.flatMap Segment.text)) path := by
  cases path with
  | nil => exact iff_of_true rfl .nil
  | cons segment rest =>
      obtain ⟨c, tail, hc, htext⟩ : ∃ c tail, endsField c = true ∧ segment.text = c :: tail := by
        cases segment with
        | field | index | wildcard => exact ⟨_, _, rfl, rfl⟩
      rw [Path.text, List.flatMap_cons, htext, List.cons_append, read_of_endsField hc,
        mapError_eq_ok_iff, readBody_cons hc, readSegments_eq_ok_iff le_rfl,
        Text.trimEnd_cons (isBlank_of_endsField hc)]

/-- The text of a path is read as the path exactly if the names of its fields are plain and the last
of them, if nothing follows it, does not end in white space. -/
theorem read_text_eq_self_iff {path : Path}
    (hsize : ∀ position, .index position ∈ path → position < Nat.pow 2 64) :
    read path.text = .ok path ↔
      (∀ name, .field name ∈ path → PlainName name) ∧
        ∀ name, path.getLast? = some (.field name) → ¬ EndsBlank name := by
  rw [read_text_eq_ok_iff]
  constructor
  · intro hspells
    obtain ⟨htrimmed, hplain⟩ := text_of_spells_prefix hspells (Text.trimEnd_prefix _)
    exact ⟨hplain, (trimEnd_text_eq_self_iff hplain).mp htrimmed⟩
  · rintro ⟨hplain, hlast⟩
    rw [(trimEnd_text_eq_self_iff hplain).mpr hlast]
    exact spells_text hsize hplain

/-- A path with a blank and a quote in its names, and with the last index there is. -/
def oddPath : Path :=
  [.field "unit price", .index 18446744073709551615, .wildcard, .field "]'s"]

/-- The odd path is read back from its text; with a blank at its end, the blank is lost. -/
theorem oddPath_read :
    (∀ position, .index position ∈ oddPath → position < Nat.pow 2 64) ∧
      read oddPath.text = .ok oddPath ∧
      read (Path.text (oddPath ++ [.field "total "])) ≠ .ok (oddPath ++ [.field "total "]) := by
  have hsize : ∀ position, .index position ∈ oddPath → position < Nat.pow 2 64 := by
    simp [oddPath]
  have hsize' : ∀ position,
      .index position ∈ oddPath ++ [.field "total "] → position < Nat.pow 2 64 := by
    simp [oddPath]
  refine ⟨hsize, (read_text_eq_self_iff hsize).mpr ⟨?_, ?_⟩, fun hread => ?_⟩
  · simp only [oddPath, List.mem_cons, Segment.field.injEq, reduceCtorEq, List.not_mem_nil,
      false_or, or_false]
    rintro name (rfl | rfl)
    · exact ⟨by decide, by decide, by decide +kernel, by decide +kernel⟩
    · exact ⟨by decide, by decide, by decide +kernel, by decide +kernel⟩
  · rintro name hname ⟨c, hc, hblank⟩
    cases hname
    have hlast : "]'s".toList.getLast? = some 's' := by decide +kernel
    cases hlast.symm.trans hc
    exact absurd hblank (by decide)
  · exact ((read_text_eq_self_iff hsize').mp hread).2 "total " rfl
      ⟨' ', by decide +kernel, by decide⟩

end Workflow.Path
