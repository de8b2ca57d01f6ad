import Std.Data.HashMap
import Workflow.Host
import Workflow.Pattern.Encoding
import Workflow.Pattern.Matching
import Workflow.Pattern.Reader

/-!
# The footprint of a pattern

A pattern may be short and yet stand for a lot: `.{1,50000}` repeats its part fifty thousand times.
What a pattern stands for is measured by the memory of an automaton that reads the bytes of a text,
once from the front and once from the back.  A pattern is refused if either takes up too much.

The automaton is never built.  Each part of a pattern adds states to those laid out before it: a
repetition lays out its part as often as it says, a set of characters lays out states that read the
encodings of its characters, and alternatives fork.  A state has a fixed size; what forks and what
reads several ranges holds more beside it.
-/

namespace Workflow.Pattern

/-- States, and the bytes that they hold beside their fixed size. -/
structure Footprint where
  states : Nat := 0
  held : Nat := 0

namespace Footprint

/-- The fixed size of a state. -/
def stateSize : Nat := 32

/-- What a state holds for each state that it forks to. -/
def forkSize : Nat := 4

/-- What a state holds for each range of bytes that it reads. -/
def rangeSize : Nat := 8

/-- The most that an automaton may take up: ten mebibytes. -/
def limit : Nat := 10 * 1024 * 1024

def isExcessive (size : Footprint) : Bool :=
  limit < stateSize * size.states + size.held

def state (size : Footprint) : Footprint :=
  { size with states := size.states + 1 }

def addStates (size : Footprint) (count : Nat) : Footprint :=
  { size with states := size.states + count }

/-- With one more state that reads some ranges of bytes. -/
def reader (size : Footprint) (ranges : Nat) : Footprint :=
  { states := size.states + 1, held := size.held + rangeSize * ranges }

/-- With states that fork to more states. -/
def forks (size : Footprint) (count : Nat) : Footprint :=
  { size with held := size.held + forkSize * count }

end Footprint

/-- From which end of a text an automaton reads. -/
inductive Direction
  | forward
  | backward
  deriving DecidableEq

/-- What is laid out after a part of a pattern, and whether the part ends in a state that forks,
which then forks to what comes behind. -/
structure Layout where
  size : Footprint
  endsInFork : Bool

namespace Layout

/-- With the end of the part led on to another state. -/
def leadOn (layout : Layout) : Footprint :=
  if layout.endsInFork then layout.size.forks 1 else layout.size

/-- A part with `next` laid out behind it. -/
def followedBy (layout next : Layout) : Layout :=
  if layout.endsInFork then { next with size := next.size.forks 1 } else next

end Layout

/-- How a part of a pattern is laid out after some states. -/
abbrev Layer := Footprint → Layout

/-! ### Sets of characters -/

/-- A slot for a list of numbers in a table. -/
def slotOf (slots : UInt64) (numbers : List Nat) : Nat :=
  ((numbers.foldl (fun hash n => (hash ^^^ n.toUInt64) * 1099511628211) 14695981039346656037) %
    slots).toNat

/-- A state that may be shared by all parts with the same content, in the order laid out. A table
with a bounded number of slots remembers such states, and forgets what loses its slot. -/
structure Shared where
  size : Footprint
  table : Std.HashMap Nat (List Nat × Nat)

/-- The state with the given content: the one that the table remembers, or a new one. -/
def Shared.state (shared : Shared) (slots : UInt64) (content : List Nat)
    (lay : Footprint → Footprint) : Nat × Shared :=
  let slot := slotOf slots content
  match shared.table[slot]?.filter fun entry => entry.1 == content with
  | some (_, state) => (state, shared)
  | none =>
    let state := shared.size.states
    (state, ⟨lay shared.size, shared.table.insert slot (content, state)⟩)

/-- Encodings in order by their first ranges, each with the ranges behind it. -/
def groupByFirst : List ByteRanges → List ((Nat × Nat) × List ByteRanges)
  | [] => []
  | [] :: encodings => groupByFirst encodings
  | (first :: rest) :: encodings =>
    match groupByFirst encodings with
    | (next, rests) :: groups =>
      if first == next then (first, rest :: rests) :: groups
      else (first, [rest]) :: (next, rests) :: groups
    | [] => [(first, [rest])]

/-- Reads encodings from the front. States are laid out from the back, and two states that read the
same ranges and lead to the same states are one. An encoding has at most four bytes. -/
def layEncodings (target : Nat) : Nat → List ByteRanges → Shared → Nat × Shared
  | 0, _, shared => (target, shared)
  | fuel + 1, encodings, shared =>
    let groups := groupByFirst encodings
    let (content, shared) := groups.foldl (fun (content, shared) (range, rests) =>
      let (next, shared) :=
        if rests.all List.isEmpty then (target, shared)
        else layEncodings target fuel rests shared
      (next :: range.2 :: range.1 :: content, shared)) ([], shared)
    shared.state 10000 content.reverse fun size => size.reader groups.length

/-- Reads one encoding from the back: its first byte leads to the end, and each byte to the one
before it, which other encodings may share. -/
def layEncodingBack (target : Nat) (encoding : ByteRanges) (shared : Shared) : Shared :=
  (encoding.foldl (fun (next, shared) (low, high) =>
    Shared.state shared 1000 [next, low, high] Footprint.state) (target, shared)).2

def laySet (direction : Direction) (set : CharSet) (size : Footprint) : Footprint :=
  if set.isSingleByte then size.state.reader set.ranges.length
  else match direction with
    | .forward =>
      (layEncodings size.states 4 set.encodings ⟨size.state, {}⟩).2.size
    | .backward =>
      let encodings := set.encodings
      let start : Shared := ⟨size.state.state, {}⟩
      let shared := encodings.foldl (fun shared encoding =>
        layEncodingBack (size.states + 1) encoding shared) start
      shared.size.forks encodings.length

/-! ### Literals side by side -/

/-- Words cut into runs at the empty words between them. -/
def cutAtEmpty : List (List Nat) → List (List (List Nat))
  | [] => [[]]
  | [] :: words => [] :: cutAtEmpty words
  | word :: words =>
    match cutAtEmpty words with
    | run :: runs => (word :: run) :: runs
    | [] => [[word]]

/-- Runs with only one of the empty runs at the start. -/
def skipEmptyRuns : List (List (List Nat)) → List (List (List Nat))
  | [] :: [] :: runs => skipEmptyRuns ([] :: runs)
  | runs => runs

/-- Words by their first letters, each letter with what comes behind it, in order. -/
def groupByLetter (words : List (List Nat)) : List (Nat × List (List Nat)) :=
  words.foldl (fun groups word =>
    match word with
    | [] => groups
    | letter :: rest =>
      if groups.any (·.1 == letter) then
        groups.map fun (other, rests) => (other, if other == letter then rests ++ [rest] else rests)
      else groups ++ [(letter, [rest])]) []

/-- A tree that reads words: a state for the letters of each run, and one that forks to them and,
where words end, to the end. The words become shorter, so the longest bounds the fuel. -/
def layTree : Nat → List (List Nat) → Footprint → Footprint
  | 0, _, size => size
  | fuel + 1, words, size =>
    let runs := (skipEmptyRuns (cutAtEmpty words)).map groupByLetter
    let size := runs.foldl (fun size letters =>
      let size := letters.foldl (fun size (_, rests) =>
        if rests.all List.isEmpty then size else layTree fuel rests size) size
      match letters with
      | [] => size
      | [_] => size.state
      | letters => size.reader letters.length) size
    let letterRuns := (runs.filter fun letters => !letters.isEmpty).length
    size.state.forks (letterRuns + (runs.length - 1))

def literal? : Pattern → Option (List Char)
  | .literal chars => some chars
  | _ => none

def layLiterals (direction : Direction) (literals : List (List Char)) (size : Footprint) :
    Footprint :=
  let words := literals.map fun chars =>
    match direction with
    | .forward => encodeChars chars
    | .backward => (encodeChars chars).reverse
  let longest := (words.map List.length).foldl max 0
  layTree (longest + 1) words size.state

/-! ### Repetitions -/

/-- More copies of a part behind what is laid out. -/
def layCopies (lay : Layer) : Nat → Layout → Layout
  | 0, layout => layout
  | count + 1, layout =>
    if layout.size.isExcessive then layout
    else layCopies lay count (layout.followedBy (lay layout.size))

/-- A part exactly so often. -/
def layExactly (lay : Layer) : Nat → Layer
  | 0, size => ⟨size.state, false⟩
  | count + 1, size => layCopies lay count (lay size)

/-- More copies of a part, each of which may be left out with all that follow. -/
def layOptional (lay : Layer) : Nat → Layout → Layout
  | 0, layout => layout
  | count + 1, layout =>
    if layout.size.isExcessive then layout
    else
      let copy := lay layout.size.state
      layOptional lay count { copy with
        size := ({ layout with size := copy.size } : Layout).leadOn.forks 2 }

/-- A part any number of times. A part that may take up nothing is laid out as an optional one that
may repeat. -/
def layAny (lay : Layer) (mayBeEmpty : Bool) : Layer := fun size =>
  if mayBeEmpty then ⟨((lay size).leadOn.state.state.state).forks 4, false⟩
  else ⟨(lay size.state).leadOn.forks 1, true⟩

def layAtLeast (lay : Layer) (least : Nat) : Layer := fun size =>
  let copies := layExactly lay least size
  ⟨copies.leadOn.state.forks 1, true⟩

def layRepeated (lay : Layer) (mayBeEmpty : Bool) (least : Nat) (most : Option Nat) : Layer :=
  fun size =>
    match least, most with
    | 0, some 1 => ⟨(lay size.state).leadOn.state.forks 2, false⟩
    | 0, none => layAny lay mayBeEmpty size
    | least, none => layAtLeast lay least size
    | least, some most =>
      let copies := layExactly lay least size
      if most ≤ least then copies
      else
        let options := layOptional lay (most - least) { copies with size := copies.size.state }
        ⟨options.leadOn, false⟩

/-! ### Patterns -/

/-- Whether a match may take up nothing, as far as the least length tells. -/
def mayBeEmpty (pattern : Pattern) : Bool :=
  match pattern.leastLength with
  | some least => least == 0
  | none => true

mutual

/-- A pattern. Once too much is laid out, nothing is added. -/
def lay (direction : Direction) : Pattern → Layer
  | .empty, size => ⟨size.state, false⟩
  | .literal chars, size => ⟨size.addStates (encodeChars chars).length, false⟩
  | .one set, size => ⟨if size.isExcessive then size else laySet direction set size, false⟩
  | .boundary _, size => ⟨size.state, false⟩
  | .group _ inside, size =>
    match direction with
    | .forward => ⟨(lay direction inside size.state).leadOn.state, false⟩
    | .backward => lay direction inside size
  | .sequence items, size =>
    match direction with
    | .forward => layBehind direction items ⟨size, false⟩
    | .backward => layBefore direction items size
  | .choice branches, size =>
    match branches.mapM literal? with
    | some literals => ⟨layLiterals direction literals size, false⟩
    | none => ⟨layAmong direction branches 0 size, false⟩
  | .repeated part least most _, size =>
    if size.isExcessive then ⟨size, false⟩
    else layRepeated (fun size => lay direction part size) part.mayBeEmpty least most size

/-- Items one behind the other, behind what is laid out. -/
def layBehind (direction : Direction) : List Pattern → Layout → Layout
  | [], layout => layout
  | item :: items, layout =>
    layBehind direction items (layout.followedBy (lay direction item layout.size))

/-- Items from the last to the first. -/
def layBefore (direction : Direction) : List Pattern → Layer
  | [], size => ⟨size, false⟩
  | item :: items, size =>
    let layout := layBefore direction items size
    layout.followedBy (lay direction item layout.size)

/-- Branches side by side. The state that forks to them and the one that they lead to come behind
the second. -/
def layAmong (direction : Direction) : List Pattern → Nat → Footprint → Footprint
  | [], _, size => size
  | branch :: branches, count, size =>
    let size := (lay direction branch size).leadOn.forks 1
    layAmong direction branches (count + 1) (if count == 1 then size.state.state else size)

end

mutual

/-- Whether every match begins at the start of the text, as far as the first items tell. -/
def isBoundToStart : Pattern → Bool
  | .boundary kind => kind == .textStart
  | .group _ inside => isBoundToStart inside
  | .sequence items => firstIsBound items
  | .choice branches => allStartBound branches
  | .repeated part least _ _ => 0 < least && isBoundToStart part
  | _ => false

/-- Whether the first item, or one behind items that take up nothing, is bound to the start. -/
def firstIsBound : List Pattern → Bool
  | [] => false
  | item :: items => isBoundToStart item || (item.isWidthless && firstIsBound items)

def allStartBound : List Pattern → Bool
  | [] => true
  | branch :: branches => isBoundToStart branch && allStartBound branches

end

mutual

/-- Whether every match ends at the end of the text, as far as the last items tell. -/
def isBoundToEnd : Pattern → Bool
  | .boundary kind => kind == .textEnd
  | .group _ inside => isBoundToEnd inside
  | .sequence items => lastIsBound items
  | .choice branches => allEndBound branches
  | .repeated part least _ _ => 0 < least && isBoundToEnd part
  | _ => false

/-- Whether the last item, or one before items that take up nothing, is bound to the end. -/
def lastIsBound : List Pattern → Bool
  | [] => false
  | item :: items => lastIsBound items || (items.all isWidthless && isBoundToEnd item)

def allEndBound : List Pattern → Bool
  | [] => true
  | branch :: branches => isBoundToEnd branch && allEndBound branches

end

/-- The footprint of a whole pattern. Unless a match is bound to where reading starts, a state in
front forks to reading any byte. Reading from the front keeps the bounds of the whole match. -/
def footprint (direction : Direction) (pattern : Pattern) : Footprint :=
  let isBound := match direction with
    | .forward => pattern.isBoundToStart
    | .backward => pattern.isBoundToEnd
  let start : Footprint := {}
  let start := if isBound then start.state else (start.state.state.reader 1).forks 2
  match direction with
  | .forward => (pattern.lay direction start.state).leadOn.state.state
  | .backward => (pattern.lay direction start).leadOn.state

def fits (pattern : Pattern) : Bool :=
  !(pattern.footprint .forward).isExcessive && !(pattern.footprint .backward).isExcessive

/-- The pattern that a text writes, if it is not too large. -/
def ofText? (text : String) : Option Pattern :=
  match read? text with
  | some pattern => if pattern.fits then some pattern else none
  | none => none

/-- The reader of these patterns, for a host to lend. -/
def reader : PatternReader := fun text =>
  match ofText? text with
  | some pattern => .ok pattern.occursIn
  | none => .error "not a pattern"

end Workflow.Pattern
