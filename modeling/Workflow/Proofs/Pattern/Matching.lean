import Workflow.Pattern.Footprint
import Workflow.Proofs.Pattern.Copies
import Workflow.Rule

/-!
# What a pattern matches

A match of a pattern goes from one place of a text to another, `Pattern.Spans`; this is said part by
part, without an order in which a text is read.  Reading a text place by place finds a match exactly
if there is one, `occursIn_iff`: the steps of a pattern are a walk that ends where a match ends that
began at a place at which the walk was entered, `walk_follows`.

The parts of a sequence and the branches of alternatives are walks ahead of and beside each other.
The copies of a repeated part are walks ahead of each other, and each of them may be the last.
-/

namespace Workflow.Pattern

mutual

/-- A match of the pattern goes from the place `i` of the text to the place `j`. -/
def Spans (text : List Char) : Pattern → Nat → Nat → Prop
  | .empty, i, j => i = j
  | .literal chars, i, j => chars <+: text.drop i ∧ i + chars.length = j
  | .one set, i, j => (∃ c, text[i]? = some c ∧ set.has c.toNat = true) ∧ i + 1 = j
  | .boundary kind, i, j => kind.holds (placeOf text i) = true ∧ i = j
  | .group _ inside, i, j => Spans text inside i j
  | .sequence items, i, j => SpansThrough text items i j
  | .choice branches, i, j => SpansAmong text branches i j
  | .repeated part least most _, i, j =>
    ∃ count, least ≤ count ∧ (∀ bound ∈ most, count ≤ bound) ∧ Times (Spans text part) count i j

/-- Matches of the items, one behind the other, go from `i` to `j`. -/
def SpansThrough (text : List Char) : List Pattern → Nat → Nat → Prop
  | [], i, j => i = j
  | item :: items, i, j => ∃ k, Spans text item i k ∧ SpansThrough text items k j

/-- A match of one of the branches goes from `i` to `j`. -/
def SpansAmong (text : List Char) : List Pattern → Nat → Nat → Prop
  | [], _, _ => False
  | branch :: branches, i, j => Spans text branch i j ∨ SpansAmong text branches i j

end

mutual

theorem le_of_spans {text : List Char} {i j : Nat} :
    (pattern : Pattern) → pattern.Spans text i j → i ≤ j
  | .empty, hspans => Nat.le_of_eq hspans
  | .literal _, hspans => hspans.2 ▸ Nat.le_add_right _ _
  | .one _, hspans => hspans.2 ▸ Nat.le_succ _
  | .boundary _, hspans => Nat.le_of_eq hspans.2
  | .group _ inside, hspans => le_of_spans inside hspans
  | .sequence items, hspans => le_of_spansThrough items hspans
  | .choice branches, hspans => le_of_spansAmong branches hspans
  | .repeated part _ _ _, ⟨_, _, _, htimes⟩ => times_le (le_of_spans part) htimes

theorem le_of_spansThrough {text : List Char} {i j : Nat} :
    (items : List Pattern) → SpansThrough text items i j → i ≤ j
  | [], hspans => Nat.le_of_eq hspans
  | item :: items, ⟨_, hfirst, hrest⟩ =>
    Nat.le_trans (le_of_spans item hfirst) (le_of_spansThrough items hrest)

theorem le_of_spansAmong {text : List Char} {i j : Nat} :
    (branches : List Pattern) → SpansAmong text branches i j → i ≤ j
  | branch :: _, .inl hspans => le_of_spans branch hspans
  | _ :: branches, .inr hspans => le_of_spansAmong branches hspans

end

/-! ## Patterns as walks -/

/-- The steps of a pattern. -/
def walk (pattern : Pattern) : Walk Progress :=
  .ofSteps fun place => pattern.step place

def walkThrough (items : List Pattern) : Walk (List Progress) where
  start := []
  step place := stepThrough place items

def walkAmong (branches : List Pattern) : Walk (List Progress) where
  start := []
  step place := stepAmong place branches

section

variable {text : List Char} {place : Place} {progress : Progress} {enter : Bool}

/-! ### Single parts

Where nothing is under way and nothing may begin, no part of a pattern is looked at.  So each part
has to do the same there as it does elsewhere. -/

theorem step_idle (pattern : Pattern) : pattern.step place .idle false = ⟨.idle, false⟩ := by
  cases pattern <;> rfl

theorem step_empty : Pattern.empty.step place progress enter = ⟨.idle, enter⟩ := by
  cases progress <;> cases enter <;> rfl

theorem step_one (set : CharSet) : (one set).step place progress enter =
    ⟨if enter && place.after.any (fun c => set.has c.toNat) then .reading [[]] else .idle,
      !progress.isIdle⟩ := by
  cases progress <;> cases enter <;> rfl

theorem step_boundary (kind : Boundary) : (boundary kind).step place progress enter =
    ⟨.idle, enter && kind.holds place⟩ := by
  cases progress <;> cases enter <;> rfl

theorem step_group (number : Nat) (inside : Pattern) :
    (group number inside).step place progress enter = inside.step place progress enter := by
  cases progress <;> cases enter <;> first | rfl | exact (step_idle inside).symm

theorem empty_follows : empty.walk.Follows text fun i j => i = j := by
  intro enters n
  simp [Walk.endsAt, walk, Walk.ofSteps, step_empty]

theorem boundary_follows (kind : Boundary) : (boundary kind).walk.Follows text
    fun i j => kind.holds (placeOf text i) = true ∧ i = j := by
  intro enters n
  simp only [Walk.endsAt, walk, Walk.ofSteps, step_boundary, Bool.and_eq_true]
  constructor
  · rintro ⟨henter, hholds⟩
    exact ⟨n, henter, hholds, rfl⟩
  · rintro ⟨i, henter, hholds, rfl⟩
    exact ⟨henter, hholds⟩

theorem one_follows (set : CharSet) : (one set).walk.Follows text
    fun i j => (∃ c, text[i]? = some c ∧ set.has c.toNat = true) ∧ i + 1 = j := by
  intro enters n
  cases n with
  | zero => simp [Walk.endsAt, Walk.stateAt, walk, Walk.ofSteps, step_one, Progress.isIdle]
  | succ n =>
    simp only [Walk.endsAt, Walk.stateAt, walk, Walk.ofSteps, step_one, placeOf]
    constructor
    · intro hends
      by_cases htakes : (enters n && text[n]?.any fun c => set.has c.toNat) = true
      · obtain ⟨henter, hany⟩ := Bool.and_eq_true_iff.mp htakes
        cases hc : text[n]? with
        | none =>
          rw [hc] at hany
          cases hany
        | some c =>
          rw [hc] at hany
          exact ⟨n, henter, ⟨c, hc, hany⟩, rfl⟩
      · rw [if_neg htakes] at hends
        cases hends
    · rintro ⟨i, henter, ⟨c, hc, hset⟩, hi⟩
      cases hi
      simp [henter, hc, hset, Progress.isIdle]

/-! ### Literals -/

/-- Of the literal, entered at the place `i`, just `rest` is still to be read at the place `n`. -/
def Reads (text chars : List Char) (i n : Nat) (rest : List Char) : Prop :=
  ∃ read, chars = read ++ rest ∧ read <+: text.drop i ∧ i + read.length = n

theorem concat_prefix_iff {read longer : List Char} {c : Char} :
    read ++ [c] <+: longer ↔ read <+: longer ∧ longer[read.length]? = some c := by
  constructor
  · rintro ⟨later, rfl⟩
    exact ⟨⟨c :: later, by simp⟩, by simp⟩
  · rintro ⟨⟨later, rfl⟩, hc⟩
    rw [List.getElem?_append_right (Nat.le_refl _), Nat.sub_self] at hc
    rw [List.prefix_append_right_inj]
    cases later with
    | nil => cases hc
    | cons d later =>
      cases hc
      exact ⟨later, rfl⟩

theorem reads_succ_iff {chars rest : List Char} {i n : Nat} :
    Reads text chars i (n + 1) rest ↔ (i = n + 1 ∧ rest = chars) ∨
      ∃ c, text[n]? = some c ∧ Reads text chars i n (c :: rest) := by
  constructor
  · rintro ⟨read, hchars, hread, hlength⟩
    rcases List.eq_nil_or_concat read with rfl | ⟨before, c, rfl⟩
    · exact .inl ⟨hlength, hchars.symm⟩
    · rw [List.concat_eq_append, concat_prefix_iff, List.getElem?_drop] at hread
      have hlength : i + before.length = n := by
        rw [List.length_concat] at hlength
        omega
      exact .inr ⟨c, hlength ▸ hread.2, before, by simpa using hchars, hread.1, hlength⟩
  · rintro (⟨rfl, rfl⟩ | ⟨c, hc, before, hchars, hread, hlength⟩)
    · exact ⟨[], rfl, List.nil_prefix, rfl⟩
    · refine ⟨before ++ [c], by simpa using hchars, ?_, by simp [← hlength, Nat.add_assoc]⟩
      rw [concat_prefix_iff, List.getElem?_drop, hlength]
      exact ⟨hread, hc⟩

/-- What may be read on from a place, if the literal may begin there as told. -/
def pending (chars : List Char) (progress : Progress) (enter : Bool) : List (List Char) :=
  if enter then chars :: progress.rests else progress.rests

theorem step_literal (chars : List Char) : (literal chars).step place progress enter =
    ⟨.toRead ((pending chars progress enter).filterMap fun
        | [] => none
        | c :: rest => if place.after == some c then some rest else none),
      (pending chars progress enter).any List.isEmpty⟩ := by
  cases progress <;> cases enter <;> rfl

@[simp] theorem rests_toRead (rests : List (List Char)) :
    (Progress.toRead rests).rests = rests := by
  cases rests <;> rfl

theorem mem_pending {chars rest : List Char} :
    rest ∈ pending chars progress enter ↔
      (enter = true ∧ rest = chars) ∨ rest ∈ progress.rests := by
  cases enter <;> simp [pending]

/-- What is to be read on behind a character is what was to be read on with it in front. -/
theorem mem_rests_succ_iff {chars rest : List Char} {enters : Nat → Bool} {n : Nat} :
    rest ∈ ((literal chars).walk.stateAt text enters (n + 1)).rests ↔
      ∃ c, text[n]? = some c ∧
        c :: rest ∈ pending chars ((literal chars).walk.stateAt text enters n) (enters n) := by
  simp only [Walk.stateAt, walk, Walk.ofSteps, step_literal, rests_toRead, placeOf,
    List.mem_filterMap]
  constructor
  · rintro ⟨_ | ⟨c, found⟩, hmem, hfound⟩
    · cases hfound
    · by_cases hc : text[n]? = some c
      · simp only [hc, beq_self_eq_true, if_pos, Option.some.injEq] at hfound
        exact ⟨c, hc, hfound ▸ hmem⟩
      · simp [hc] at hfound
  · rintro ⟨c, hc, hmem⟩
    exact ⟨c :: rest, hmem, by simp [hc]⟩

theorem mem_pending_iff {chars rest : List Char} {enters : Nat → Bool} {n : Nat} :
    rest ∈ pending chars ((literal chars).walk.stateAt text enters n) (enters n) ↔
      ∃ i, enters i = true ∧ Reads text chars i n rest := by
  induction n generalizing rest with
  | zero =>
    rw [mem_pending]
    constructor
    · rintro (⟨henter, rfl⟩ | hnone)
      · exact ⟨0, henter, [], rfl, List.nil_prefix, rfl⟩
      · cases hnone
    · rintro ⟨i, henter, read, rfl, -, hlength⟩
      obtain ⟨rfl, hread⟩ := Nat.add_eq_zero_iff.mp hlength
      rw [List.length_eq_zero_iff.mp hread]
      exact .inl ⟨henter, rfl⟩
  | succ n ih =>
    rw [mem_pending, mem_rests_succ_iff]
    constructor
    · rintro (⟨henter, rfl⟩ | ⟨c, hc, hmem⟩)
      · exact ⟨n + 1, henter, reads_succ_iff.mpr (.inl ⟨rfl, rfl⟩)⟩
      · obtain ⟨i, henter, hreads⟩ := ih.mp hmem
        exact ⟨i, henter, reads_succ_iff.mpr (.inr ⟨c, hc, hreads⟩)⟩
    · rintro ⟨i, henter, hreads⟩
      rcases reads_succ_iff.mp hreads with ⟨rfl, rfl⟩ | ⟨c, hc, hreads⟩
      · exact .inl ⟨henter, rfl⟩
      · exact .inr ⟨c, hc, ih.mpr ⟨i, henter, hreads⟩⟩

theorem literal_follows (chars : List Char) : (literal chars).walk.Follows text
    fun i j => chars <+: text.drop i ∧ i + chars.length = j := by
  intro enters n
  have hends : (literal chars).walk.endsAt text enters n = true ↔
      [] ∈ pending chars ((literal chars).walk.stateAt text enters n) (enters n) := by
    simp only [Walk.endsAt, walk, Walk.ofSteps, step_literal, List.any_eq_true, List.isEmpty_iff,
      exists_eq_right]
  rw [hends, mem_pending_iff]
  constructor
  · rintro ⟨i, henter, read, hchars, hread⟩
    rw [List.append_nil] at hchars
    exact ⟨i, henter, hchars ▸ hread⟩
  · rintro ⟨i, henter, hspans⟩
    exact ⟨i, henter, chars, (List.append_nil chars).symm, hspans⟩

/-! ### Sequences and alternatives -/

theorem step_sequence (items : List Pattern) : (sequence items).step place progress enter =
    let result := stepThrough place items progress.ofPart enter
    ⟨.ofParts result.1, result.2⟩ := by
  cases progress <;> cases enter <;> try rfl
  cases items <;> rfl

theorem step_choice (branches : List Pattern) : (choice branches).step place progress enter =
    let result := stepAmong place branches progress.ofPart enter
    ⟨.ofParts result.1, result.2⟩ := by
  cases progress <;> cases enter <;> try rfl
  cases branches <;> rfl

@[simp] theorem ofPart_ofParts (parts : List Progress) :
    (Progress.ofParts parts).ofPart = parts := by
  cases parts <;> rfl

/-- The same first part and the same parts behind it, where a part that is alone and not under way
may be left out. -/
def SameParts (parts all : List Progress) : Prop :=
  parts.headD .idle = all.headD .idle ∧ parts.tail = all.tail

theorem sameParts_consPart (first : Progress) (rest : List Progress) :
    SameParts (Progress.consPart first rest) (first :: rest) := by
  cases first <;> cases rest <;> exact ⟨rfl, rfl⟩

theorem stepThrough_cons (item : Pattern) (items : List Pattern) (parts : List Progress) :
    stepThrough place (item :: items) parts enter =
      let first := item.step place (parts.headD .idle) enter
      let rest := stepThrough place items parts.tail first.ends
      (Progress.consPart first.progress rest.1, rest.2) := by
  cases parts with
  | cons part parts => rfl
  | nil =>
    cases enter with
    | true => rfl
    | false =>
      simp only [List.headD_nil, step_idle, List.tail_nil]
      cases items <;> rfl

theorem stepAmong_cons (branch : Pattern) (branches : List Pattern) (parts : List Progress) :
    stepAmong place (branch :: branches) parts enter =
      let first := branch.step place (parts.headD .idle) enter
      let rest := stepAmong place branches parts.tail enter
      (Progress.consPart first.progress rest.1, first.ends || rest.2) := by
  cases parts with
  | cons part parts => rfl
  | nil =>
    cases enter with
    | true => rfl
    | false =>
      simp only [List.headD_nil, step_idle, List.tail_nil]
      cases branches <;> rfl

theorem walkThrough_cons_follows {item : Pattern} {items : List Pattern} {R S : Nat → Nat → Prop}
    (hitem : item.walk.Follows text R) (hitems : (walkThrough items).Follows text S) :
    (walkThrough (item :: items)).Follows text fun i j => ∃ k, R i k ∧ S k j := by
  have hahead : (item.walk.ahead false (walkThrough items)).Follows text
      fun i j => ∃ k, R i k ∧ S k j :=
    (hitem.ahead hitems).congr fun i j => by simp
  refine hahead.of_simulates SameParts ⟨rfl, rfl⟩ fun place parts all enter hsame => ?_
  obtain ⟨hhead, htail⟩ := hsame
  simp only [walkThrough, stepThrough_cons, Walk.ahead, walk, Walk.ofSteps, ← hhead, ← htail,
    Bool.and_false, Bool.false_or]
  exact ⟨sameParts_consPart _ _, trivial⟩

theorem walkAmong_cons_follows {branch : Pattern} {branches : List Pattern}
    {R S : Nat → Nat → Prop} (hbranch : branch.walk.Follows text R)
    (hbranches : (walkAmong branches).Follows text S) :
    (walkAmong (branch :: branches)).Follows text fun i j => R i j ∨ S i j := by
  refine (hbranch.beside hbranches).of_simulates SameParts ⟨rfl, rfl⟩
    fun place parts all enter hsame => ?_
  obtain ⟨hhead, htail⟩ := hsame
  simp only [walkAmong, stepAmong_cons, Walk.beside, walk, Walk.ofSteps, ← hhead, ← htail]
  exact ⟨sameParts_consPart _ _, trivial⟩

/-! ### Repetitions -/

/-- The number of copies of a repeated part; without a bound the last one loops. -/
def copyCount (least : Nat) (most : Option Nat) : Nat :=
  most.getD (max least 1)

@[simp] theorem ofCopy_ofCopies (copies : List (Nat × Progress)) :
    (Progress.ofCopies copies).ofCopy = copies := by
  cases copies <;> rfl

theorem stepCopies_idle {step : Stepper} {least count fuel : Nat} {loops : Bool} :
    stepCopies step least count loops fuel 0 [] false [] false = ⟨.idle, false⟩ := by
  cases fuel <;> simp [stepCopies, Progress.ofCopies]

theorem step_repeated (part : Pattern) (least : Nat) (most : Option Nat) (greedy : Bool) :
    (repeated part least most greedy).step place progress enter =
      stepCopies (part.step place) least (copyCount least most) most.isNone
        (copyCount least most) 0 progress.ofCopy enter [] (enter && least == 0) := by
  by_cases hrest : progress = .idle ∧ enter = false
  · obtain ⟨rfl, rfl⟩ := hrest
    exact (step_idle _).trans stepCopies_idle.symm
  · cases most <;> cases progress <;> cases enter <;> first | rfl | simp at hrest

/-- The steps of a repetition are the steps of all its copies. -/
theorem step_repeated_eq_copies {part : Pattern} {least : Nat} {most : Option Nat} {greedy : Bool}
    {all : List Progress} (hactive : progress.ofCopy = underWay 0 all)
    (hlength : all.length = copyCount least most) :
    (repeated part least most greedy).step place progress enter =
      let copies := part.walk.copies least most.isNone (copyCount least most) 0
      let result := copies.step place all enter
      ⟨.ofCopies (underWay 0 result.1), (enter && least == 0) || result.2⟩ := by
  rw [step_repeated, hactive, ← hlength]
  exact stepCopies_underWay (fun place => part.step place) (step_idle part) (Nat.zero_add _).symm
    (Nat.le_refl _)

theorem repeated_follows {part : Pattern} {least : Nat} {most : Option Nat} {greedy : Bool}
    {R : Nat → Nat → Prop} (hpart : part.walk.Follows text R) (hle : ∀ {i j}, R i j → i ≤ j) :
    (repeated part least most greedy).walk.Follows text fun i j =>
      ∃ count, least ≤ count ∧ (∀ bound ∈ most, count ≤ bound) ∧ Times R count i j := by
  have hloops : most.isNone = true →
      0 < copyCount least most ∧ least ≤ 0 + copyCount least most := by
    intro hnone
    rw [Option.isNone_iff_eq_none.mp hnone, copyCount, Option.getD_none]
    omega
  have hcopies : ((part.walk.copies least most.isNone (copyCount least most) 0).orHere
      (least == 0)).Follows text _ := (hpart.copies hle hloops).orHere
  have hstart : ((part.walk.copies least most.isNone (copyCount least most) 0).orHere
      (least == 0)).start = List.replicate (copyCount least most) .idle := Walk.copies_start
  have hrepeated : (repeated part least most greedy).walk.Follows text _ :=
    hcopies.of_simulates
      (fun progress all => progress.ofCopy = underWay 0 all ∧ all.length = copyCount least most)
      (by
        rw [hstart, underWay_replicate]
        exact ⟨rfl, List.length_replicate⟩)
      (by
        rintro place progress all enter ⟨hactive, hlength⟩
        simp only [walk, Walk.ofSteps, step_repeated_eq_copies hactive hlength, ofCopy_ofCopies]
        exact ⟨⟨rfl, Walk.length_copies_step⟩, rfl⟩)
  refine hrepeated.congr fun i j => ?_
  constructor
  · rintro (⟨hleast, rfl⟩ | ⟨more, hmore, hleast, htimes⟩)
    · exact ⟨0, Nat.le_of_eq (beq_iff_eq.mp hleast), fun _ _ => Nat.zero_le _, rfl⟩
    · refine ⟨more + 1, by omega, fun bound hbound => ?_, htimes⟩
      obtain rfl := Option.mem_def.mp hbound
      exact hmore rfl
  · rintro ⟨_ | more, hleast, hmost, htimes⟩
    · exact .inl ⟨beq_iff_eq.mpr (Nat.le_zero.mp hleast), htimes⟩
    · refine .inr ⟨more, fun hbound => ?_, by omega, htimes⟩
      cases most with
      | none => cases hbound
      | some bound => exact hmost bound rfl

/-! ## Patterns and their matches -/

theorem group_walk (number : Nat) (inside : Pattern) :
    (group number inside).walk = inside.walk := by
  simp only [walk, Walk.ofSteps, step_group]

theorem sequence_follows {items : List Pattern} {R : Nat → Nat → Prop}
    (hitems : (walkThrough items).Follows text R) : (sequence items).walk.Follows text R := by
  refine hitems.of_simulates (fun progress parts => progress.ofPart = parts) rfl ?_
  rintro place progress parts enter rfl
  simp only [walk, Walk.ofSteps, step_sequence, ofPart_ofParts]
  exact ⟨rfl, rfl⟩

theorem choice_follows {branches : List Pattern} {R : Nat → Nat → Prop}
    (hbranches : (walkAmong branches).Follows text R) : (choice branches).walk.Follows text R := by
  refine hbranches.of_simulates (fun progress parts => progress.ofPart = parts) rfl ?_
  rintro place progress parts enter rfl
  simp only [walk, Walk.ofSteps, step_choice, ofPart_ofParts]
  exact ⟨rfl, rfl⟩

theorem walkThrough_nil_follows : (walkThrough []).Follows text fun i j => i = j := by
  intro enters n
  simp [Walk.endsAt, walkThrough, stepThrough]

theorem walkAmong_nil_follows : (walkAmong []).Follows text fun _ _ => False := by
  intro enters n
  simp [Walk.endsAt, walkAmong, stepAmong]

mutual

/-- The steps of a pattern end exactly where a match ends that began where it might. -/
theorem walk_follows : (pattern : Pattern) → pattern.walk.Follows text (Spans text pattern)
  | .empty => empty_follows
  | .literal chars => literal_follows chars
  | .one set => one_follows set
  | .boundary kind => boundary_follows kind
  | .group number inside => group_walk number inside ▸ walk_follows inside
  | .sequence items => sequence_follows (walkThrough_follows items)
  | .choice branches => choice_follows (walkAmong_follows branches)
  | .repeated part _ _ _ => repeated_follows (walk_follows part) (le_of_spans part)

theorem walkThrough_follows :
    (items : List Pattern) → (walkThrough items).Follows text (SpansThrough text items)
  | [] => walkThrough_nil_follows
  | item :: items => walkThrough_cons_follows (walk_follows item) (walkThrough_follows items)

theorem walkAmong_follows :
    (branches : List Pattern) → (walkAmong branches).Follows text (SpansAmong text branches)
  | [] => walkAmong_nil_follows
  | branch :: branches => walkAmong_cons_follows (walk_follows branch) (walkAmong_follows branches)

end

end

theorem placeOf_append (read rest : List Char) :
    placeOf (read ++ rest) read.length =
      ⟨(placeOf (read ++ rest) read.length).before, rest.head?⟩ := by
  simp [placeOf, List.head?_eq_getElem?, List.getElem?_append_right]

theorem placeOf_append_cons_before (read rest : List Char) (c : Char) :
    (placeOf (read ++ c :: rest) (read.length + 1)).before = some c := by
  simp [placeOf]

/-- Reading on from a place tells whether a match ends there or at a later place. -/
theorem endsIn_iff (pattern : Pattern) (read rest : List Char) :
    pattern.endsIn (placeOf (read ++ rest) read.length).before
        (pattern.walk.stateAt (read ++ rest) (fun _ => true) read.length) rest = true ↔
      ∃ n, read.length ≤ n ∧ n ≤ read.length + rest.length ∧
        pattern.walk.endsAt (read ++ rest) (fun _ => true) n = true := by
  induction rest generalizing read with
  | nil =>
    rw [endsIn, ← List.head?_nil, ← placeOf_append]
    constructor
    · exact fun hends => ⟨read.length, Nat.le_refl _, Nat.le_refl _, hends⟩
    · rintro ⟨n, hle, hge, hends⟩
      exact Nat.le_antisymm hle hge ▸ hends
  | cons c rest ih =>
    have hrest := ih (read ++ [c])
    simp only [List.append_assoc, List.singleton_append, List.length_append, List.length_singleton,
      placeOf_append_cons_before] at hrest
    rw [endsIn, ← List.head?_cons, ← placeOf_append, Bool.or_eq_true]
    constructor
    · rintro (hends | hlater)
      · exact ⟨read.length, Nat.le_refl _, Nat.le_add_right _ _, hends⟩
      · obtain ⟨n, hle, hge, hends⟩ := hrest.mp hlater
        exact ⟨n, Nat.le_of_succ_le hle, by rw [List.length_cons]; omega, hends⟩
    · rintro ⟨n, hle, hge, hends⟩
      rcases Nat.lt_or_eq_of_le hle with hlt | rfl
      · exact .inr (hrest.mpr ⟨n, hlt, by rw [List.length_cons] at hge; omega, hends⟩)
      · exact .inl hends

/-- A match of the pattern occurs in a text exactly if it goes between two of its places. -/
theorem occursIn_iff (pattern : Pattern) (text : String) :
    pattern.occursIn text = true ↔
      ∃ i j, j ≤ text.toList.length ∧ pattern.Spans text.toList i j := by
  refine (endsIn_iff pattern [] text.toList).trans ?_
  simp only [walk_follows pattern _ _, List.nil_append, List.length_nil, Nat.zero_le, Nat.zero_add,
    true_and]
  constructor
  · rintro ⟨j, hj, i, hspans⟩
    exact ⟨i, j, hj, hspans⟩
  · rintro ⟨i, j, hj, hspans⟩
    exact ⟨j, hj, i, hspans⟩

/-- With this reader the rule on patterns holds of texts in which a match occurs, and of nothing
else. -/
theorem hasMatch_reader_iff (subject expected : Value) :
    subject.hasMatch reader expected = .ok true ↔
      ∃ text words pattern i j, subject = .string text ∧ expected = .string words ∧
        ofText? words = some pattern ∧ j ≤ text.toList.length ∧ pattern.Spans text.toList i j := by
  cases expected with
  | string words =>
    cases hpattern : ofText? words with
    | none => simp [Value.hasMatch, reader, hpattern]
    | some pattern =>
      cases subject with
      | string text => simp [Value.hasMatch, reader, hpattern, occursIn_iff]
      | _ => simp [Value.hasMatch, reader, hpattern]
  | _ => simp [Value.hasMatch]

end Workflow.Pattern
