import Workflow.Pattern.Basic

/-!
# Matching

A text is read once, from place to place.  What is kept between two places is the progress of all
matches that are under way, laid out as the pattern is: where its parts have got to.  At each place
the parts that are at their end let the parts after them begin, and then the next character is read
by all parts that can take it.  So the work at a place depends on the pattern and not on the length
of the text, however the pattern repeats.
-/

namespace Workflow

namespace Pattern

/-- A place of a text, by the characters on its two sides. -/
structure Place where
  before : Option Char
  after : Option Char

end Pattern

def Boundary.holds (place : Pattern.Place) : Boundary → Bool
  | .textStart => place.before.isNone
  | .textEnd => place.after.isNone
  | .lineStart => place.before.all (· == '\n')
  | .lineEnd => place.after.all (· == '\n')
  | .wordEdge => place.before.any Text.isWord != place.after.any Text.isWord
  | .noWordEdge => place.before.any Text.isWord == place.after.any Text.isWord

namespace Pattern

/-- How far the matches of a pattern that are under way have got: none is; characters are still to
be read, in one of several ways; each part, or each copy of a repeated part, has got somewhere.  The
parts behind the last one that is under way, and the copies that are not, are left out. -/
inductive Progress
  | idle
  | reading (rests : List (List Char))
  | parts (progress : List Progress)
  | copies (progress : List (Nat × Progress))

namespace Progress

def isIdle : Progress → Bool
  | .idle => true
  | _ => false

def rests : Progress → List (List Char)
  | .reading rests => rests
  | _ => []

def ofPart : Progress → List Progress
  | .parts progress => progress
  | _ => []

def ofCopy : Progress → List (Nat × Progress)
  | .copies progress => progress
  | _ => []

/-- The progress of texts that are to be read on. -/
def toRead : List (List Char) → Progress
  | [] => .idle
  | rests => .reading rests

def ofParts : List Progress → Progress
  | [] => .idle
  | progress => .parts progress

def ofCopies : List (Nat × Progress) → Progress
  | [] => .idle
  | progress => .copies progress

/-- The progress of one part in front of that of others. -/
def consPart : Progress → List Progress → List Progress
  | .idle, [] => []
  | first, rest => first :: rest

end Progress

/-- What a step over a place leaves: the progress behind it, and whether a match ends at it. -/
structure Step where
  progress : Progress
  ends : Bool

/-- How a part of a pattern steps over a place, by its progress and whether it may begin there. -/
abbrev Stepper := Progress → Bool → Step

/-- How a part that is repeated steps over a place. Each copy may begin where the one before it
ends, and a last copy that loops may begin where it ends itself. The copies under way come in order,
`next` is the first one that is still to step, and `count` is the number of copies. -/
def stepCopies (step : Stepper) (least count : Nat) (loops : Bool) :
    Nat → Nat → List (Nat × Progress) → Bool → List (Nat × Progress) → Bool → Step
  | 0, _, _, _, done, ends => ⟨.ofCopies done.reverse, ends⟩
  | fuel + 1, next, active, enter, done, ends =>
    let (copy, progress, others) := match active with
      | (copy, progress) :: others =>
        if enter && next < copy then (next, .idle, active) else (copy, progress, others)
      | [] => (next, .idle, [])
    if count ≤ copy || (active.isEmpty && !enter) then ⟨.ofCopies done.reverse, ends⟩
    else
      let once := step progress enter
      let result :=
        if loops && copy + 1 == count && once.ends && !enter then step progress true else once
      let done := if result.progress.isIdle then done else (copy, result.progress) :: done
      stepCopies step least count loops fuel (copy + 1) others result.ends done
        (ends || (result.ends && least ≤ copy + 1))

mutual

/-- How a pattern steps over a place. -/
def step (place : Place) : Pattern → Stepper
  | _, .idle, false => ⟨.idle, false⟩
  | .empty, _, enter => ⟨.idle, enter⟩
  | .literal chars, progress, enter =>
    let rests := if enter then chars :: progress.rests else progress.rests
    let further := rests.filterMap fun
      | [] => none
      | c :: rest => if place.after == some c then some rest else none
    ⟨.toRead further, rests.any List.isEmpty⟩
  | .one set, progress, enter =>
    let takes := enter && place.after.any fun c => set.has c.toNat
    ⟨if takes then .reading [[]] else .idle, !progress.isIdle⟩
  | .boundary kind, _, enter => ⟨.idle, enter && kind.holds place⟩
  | .group _ inside, progress, enter => step place inside progress enter
  | .sequence items, progress, enter =>
    let (progress, ends) := stepThrough place items progress.ofPart enter
    ⟨.ofParts progress, ends⟩
  | .choice branches, progress, enter =>
    let (progress, ends) := stepAmong place branches progress.ofPart enter
    ⟨.ofParts progress, ends⟩
  | .repeated part least most _, progress, enter =>
    let stepper := fun progress enter => step place part progress enter
    let none := enter && least == 0
    match most with
    | some most => stepCopies stepper least most false most 0 progress.ofCopy enter [] none
    | Option.none =>
      let count := max least 1
      stepCopies stepper least count true count 0 progress.ofCopy enter [] none

/-- How items step over a place one behind the other: each may begin where the one before it
ends. -/
def stepThrough (place : Place) :
    List Pattern → List Progress → Bool → List Progress × Bool
  | [], _, enter => ([], enter)
  | _, [], false => ([], false)
  | item :: items, progress, enter =>
    let first := step place item (progress.headD .idle) enter
    let (rest, ends) := stepThrough place items progress.tail first.ends
    (Progress.consPart first.progress rest, ends)

/-- How branches step over a place side by side. -/
def stepAmong (place : Place) :
    List Pattern → List Progress → Bool → List Progress × Bool
  | [], _, _ => ([], false)
  | _, [], false => ([], false)
  | branch :: branches, progress, enter =>
    let first := step place branch (progress.headD .idle) enter
    let (rest, ends) := stepAmong place branches progress.tail enter
    (Progress.consPart first.progress rest, first.ends || ends)

end

/-- Whether a match ends in the rest of a text, where a match may begin at every place. -/
def endsIn (pattern : Pattern) (before : Option Char) (progress : Progress) :
    List Char → Bool
  | [] => (pattern.step ⟨before, none⟩ progress true).ends
  | c :: rest =>
    let result := pattern.step ⟨before, some c⟩ progress true
    result.ends || endsIn pattern (some c) result.progress rest

def occursIn (pattern : Pattern) (text : String) : Bool :=
  pattern.endsIn none .idle text.toList

end Pattern

end Workflow
