import Workflow.Error
import Workflow.Path.Basic
import Workflow.Text.Blank

/-!
# Reading path text

A path is written as `$.order.lines[2]['unit price']`.  The dollar sign is optional and the first
field needs no point.  A field name ends before the next point or opening bracket; a bracket holds
an index, a key in quotes or a star, and ends at the first closing bracket.  A field named by a
lone star is a wildcard.
-/

namespace Workflow.Path

def endsField (c : Char) : Bool :=
  c == '.' || c == '['

/-- The segment that a field name outside brackets denotes. -/
def fieldSegment (name : List Char) : Segment :=
  if name = ['*'] then .wildcard else .field (String.ofList name)

/-- A decimal index below `2 ^ 64`, with an optional plus sign. -/
def readIndex? (text : List Char) : Option Nat :=
  let digits := match text with
    | '+' :: rest => rest
    | text => text
  if !digits.isEmpty && digits.all Char.isDigit then
    let n := digits.foldl (fun n c => 10 * n + (c.toNat - '0'.toNat)) 0
    if n < Nat.pow 2 64 then some n else none
  else none

/-- Whether `text` stands between two marks `mark`, which may not be the same one. -/
def isBetween (mark : Char) (text : List Char) : Bool :=
  text.head? == some mark && text.getLast? == some mark && 2 ≤ text.length

/-- The segment in a bracket, the blanks around it removed. -/
def readBracket (inner : List Char) : Except PathFault Segment :=
  if inner = ['*'] then .ok .wildcard
  else if isBetween '\'' inner || isBetween '"' inner then
    .ok (.field (String.ofList inner.tail.dropLast))
  else
    match readIndex? inner with
    | some position => .ok (.index position)
    | none => .error (.badBracket (String.ofList inner))

/-- What stands before the first `mark`, and what follows it. -/
def splitAtMark? (mark : Char) : List Char → Option (List Char × List Char)
  | [] => none
  | c :: rest =>
    if c = mark then some ([], rest)
    else (splitAtMark? mark rest).map fun (before, after) => (c :: before, after)

/-- The segments of a text of which `offset` characters have been read. Each segment is longer than
nothing, so the length of the text bounds the fuel. -/
def readSegments (offset : Nat) : Nat → List Char → Except PathFault Path
  | _, [] => .ok []
  | 0, c :: _ => .error (.unexpected c offset)
  | fuel + 1, '.' :: rest =>
    let name := rest.takeWhile (!endsField ·)
    if name.isEmpty then .error .emptyField
    else do
      let path ← readSegments (offset + 1 + name.length) fuel (rest.drop name.length)
      return fieldSegment name :: path
  | fuel + 1, '[' :: rest =>
    match splitAtMark? ']' rest with
    | none => .error .unterminatedBracket
    | some (inner, after) => do
      let segment ← readBracket (Text.trim inner)
      let path ← readSegments (offset + 2 + inner.length) fuel after
      return segment :: path
  | _ + 1, c :: _ => .error (.unexpected c offset)

/-- The segments of a trimmed text behind its dollar sign. -/
def readBody (body : List Char) : Except PathFault Path :=
  match body with
  | [] => .ok []
  | c :: _ =>
    if endsField c then readSegments 0 body.length body
    else do
      let name := body.takeWhile (!endsField ·)
      let path ← readSegments name.length body.length (body.drop name.length)
      return fieldSegment name :: path

/-- The path that a text writes. -/
def read (text : String) : Except Error Path :=
  let trimmed := Text.trim text.toList
  let body := match trimmed with
    | '$' :: rest => rest
    | _ => trimmed
  (readBody body).mapError (.badPath text)

end Workflow.Path
