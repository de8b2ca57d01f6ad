import Workflow.Json.Reader
import Workflow.Pattern.Basic

/-!
# Reading escapes and character classes

A class in brackets is a union of characters, ranges, named classes and classes in brackets.  Two
unions are joined by `&&` (both), `--` (the first without the second) or `~~` (one but not both),
from left to right.  Case is folded before a class is negated.

With a class goes its depth, which tells how many parts lie within one another: brackets, joins and
unions of several items count.
-/

namespace Workflow.Pattern

/-- What a backslash and the characters after it stand for. -/
inductive Escape
  | char (c : Char)
  | charSet (set : CharSet)
  | boundary (kind : Boundary)

/-- The character with the code that hexadecimal digits write. -/
def charOfHex? (digits : List Char) : Option Char :=
  match digits.mapM Json.hexDigit? with
  | some values =>
    let code := values.foldl (fun n digit => 16 * n + digit) 0
    if !values.isEmpty && Nat.isValidChar code then some (Char.ofNat code) else none
  | none => none

/-- A character code: `count` hexadecimal digits, or any number of them in braces. -/
def readHex? (count : Nat) (text : List Char) : Option (Escape × List Char) :=
  match text with
  | '\x7b' :: rest =>
    match rest.dropWhile (· != '\x7d') with
    | '\x7d' :: after => (charOfHex? (rest.takeWhile (· != '\x7d'))).map fun c => (.char c, after)
    | _ => none
  | text =>
    let digits := text.take count
    if digits.length == count then (charOfHex? digits).map fun c => (.char c, text.drop count)
    else none

/-- Whether a character may be escaped though the escape has no meaning of its own. -/
def isEscapable (c : Char) : Bool :=
  c.toNat < 0x80 && !c.isAlphanum && c != '<' && c != '>'

/-- What follows a backslash. -/
def readEscape? : List Char → Option (Escape × List Char)
  | [] => none
  | c :: rest =>
    match c with
    | 'x' => readHex? 2 rest
    | 'u' => readHex? 4 rest
    | 'U' => readHex? 8 rest
    | 'd' => some (.charSet .digit, rest)
    | 'D' => some (.charSet CharSet.digit.complement, rest)
    | 's' => some (.charSet .blank, rest)
    | 'S' => some (.charSet CharSet.blank.complement, rest)
    | 'w' => some (.charSet .word, rest)
    | 'W' => some (.charSet CharSet.word.complement, rest)
    | 'a' => some (.char '\x07', rest)
    | 'f' => some (.char '\x0c', rest)
    | 't' => some (.char '\t', rest)
    | 'n' => some (.char '\n', rest)
    | 'r' => some (.char '\r', rest)
    | 'v' => some (.char '\x0b', rest)
    | 'A' => some (.boundary .textStart, rest)
    | 'z' => some (.boundary .textEnd, rest)
    | 'b' => some (.boundary .wordEdge, rest)
    | 'B' => some (.boundary .noWordEdge, rest)
    | c => if isEscapable c then some (.char c, rest) else none

def ofCharRanges (ranges : List (Char × Char)) : CharSet :=
  .ofRanges (ranges.map fun (low, high) => (low.toNat, high.toNat))

/-- The classes that have a name between colons. -/
def namedClass? (name : List Char) : Option CharSet :=
  match String.ofList name with
  | "alnum" => some (ofCharRanges [('0', '9'), ('A', 'Z'), ('a', 'z')])
  | "alpha" => some (ofCharRanges [('A', 'Z'), ('a', 'z')])
  | "ascii" => some (ofCharRanges [('\x00', '\x7f')])
  | "blank" => some (ofCharRanges [('\t', '\t'), (' ', ' ')])
  | "cntrl" => some (ofCharRanges [('\x00', '\x1f'), ('\x7f', '\x7f')])
  | "digit" => some (ofCharRanges [('0', '9')])
  | "graph" => some (ofCharRanges [('!', '~')])
  | "lower" => some (ofCharRanges [('a', 'z')])
  | "print" => some (ofCharRanges [(' ', '~')])
  | "punct" => some (ofCharRanges [('!', '/'), (':', '@'), ('[', '\x60'), ('\x7b', '~')])
  | "space" => some (ofCharRanges [('\t', '\r'), (' ', ' ')])
  | "upper" => some (ofCharRanges [('A', 'Z')])
  | "word" => some (ofCharRanges [('0', '9'), ('A', 'Z'), ('_', '_'), ('a', 'z')])
  | "xdigit" => some (ofCharRanges [('0', '9'), ('A', 'F'), ('a', 'f')])
  | _ => none

/-- A set, closed under case if case is ignored, and then negated if asked. -/
def closed (ignoreCase negated : Bool) (set : CharSet) : CharSet :=
  let set := if ignoreCase then set.upToCase else set
  if negated then set.complement else set

/-- A named class behind its opening bracket and colon. -/
def readNamedClass? (ignoreCase : Bool) (text : List Char) : Option (CharSet × List Char) :=
  let (negated, text) := match text with
    | '^' :: rest => (true, rest)
    | text => (false, text)
  match text.dropWhile (· != ':') with
  | ':' :: ']' :: rest =>
    (namedClass? (text.takeWhile (· != ':'))).map fun set => (closed ignoreCase negated set, rest)
  | _ => none

/-- One item of a class: a character, or a class that an escape stands for. -/
def readClassItem? : List Char → Option (Escape × List Char)
  | [] => none
  | '\\' :: rest => readEscape? rest
  | c :: rest => some (.char c, rest)

/-- The set of one item, which may not be a place between characters. -/
def itemSet? : Escape → Option CharSet
  | .char c => some (.single c)
  | .charSet set => some set
  | .boundary _ => none

/-- One item of a class or a range of characters. A minus sign before a closing bracket or another
minus sign makes no range. -/
def readClassRange? (text : List Char) : Option (CharSet × List Char) :=
  match readClassItem? text with
  | none => none
  | some (item, rest) =>
    match rest with
    | [] => none
    | '-' :: ']' :: _ => (itemSet? item).map ((·, rest))
    | '-' :: '-' :: _ => (itemSet? item).map ((·, rest))
    | '-' :: after =>
      match item, readClassItem? after with
      | .char low, some (.char high, rest) =>
        if low ≤ high then some (ofCharRanges [(low, high)], rest) else none
      | _, _ => none
    | _ => (itemSet? item).map ((·, rest))

/-- How two unions are joined. -/
inductive Join
  | both
  | without
  | notBoth

def Join.apply (a b : CharSet) : Join → CharSet
  | .both => a.both b
  | .without => a.both b.complement
  | .notBoth => (a.both b.complement).union (b.both a.complement)

/-- A class that was read, and its depth. -/
structure ReadClass where
  set : CharSet
  depth : Nat

/-- A union that is being read, and what stands before it. -/
structure ClassState where
  left : Option (ReadClass × Join) := none
  ranges : List (Nat × Nat) := []
  items : Nat := 0
  deepest : Nat := 0

/-- What was read so far; the sides of a join are closed under case on their own. -/
def ClassState.whole (ignoreCase : Bool) (state : ClassState) : ReadClass :=
  let set := CharSet.ofRanges state.ranges
  let depth := if state.items < 2 then state.deepest else state.deepest + 1
  match state.left with
  | none => ⟨set, depth⟩
  | some (left, join) =>
    ⟨join.apply (closed ignoreCase false left.set) (closed ignoreCase false set),
      max left.depth depth + 1⟩

def ClassState.add (state : ClassState) (item : ReadClass) : ClassState :=
  { state with
    ranges := item.set.ranges ++ state.ranges
    items := state.items + 1
    deepest := max state.deepest item.depth }

def ClassState.join (ignoreCase : Bool) (state : ClassState) (join : Join) : ClassState :=
  { left := some (state.whole ignoreCase, join) }

def ClassState.close (ignoreCase negated : Bool) (state : ClassState) : ReadClass :=
  let inside := state.whole ignoreCase
  ⟨closed ignoreCase negated inside.set, inside.depth + 1⟩

/-- The minus signs at the start of a class, and a closing bracket that comes first, are
characters. -/
def readClassStart (text : List Char) : ClassState × List Char :=
  let minuses := text.takeWhile (· == '-')
  let rest := text.dropWhile (· == '-')
  if minuses.isEmpty then
    match rest with
    | ']' :: rest => (({} : ClassState).add ⟨.single ']', 0⟩, rest)
    | rest => ({}, rest)
  else (minuses.foldl (fun state minus => state.add ⟨.single minus, 0⟩) {}, rest)

/-- The items of a class up to behind its closing bracket. At most `room` more brackets may be open
at a time. Each item takes up a character, so the length of the text bounds the fuel. -/
def readClassItems? (ignoreCase : Bool) (room : Nat) (negated : Bool) (state : ClassState) :
    Nat → List Char → Option (ReadClass × List Char)
  | 0, _ => none
  | fuel + 1, text =>
    match text with
    | [] => none
    | ']' :: rest => some (state.close ignoreCase negated, rest)
    | '&' :: '&' :: rest =>
      readClassItems? ignoreCase room negated (state.join ignoreCase .both) fuel rest
    | '-' :: '-' :: rest =>
      readClassItems? ignoreCase room negated (state.join ignoreCase .without) fuel rest
    | '~' :: '~' :: rest =>
      readClassItems? ignoreCase room negated (state.join ignoreCase .notBoth) fuel rest
    | '[' :: rest =>
      let named := match rest with
        | ':' :: rest => readNamedClass? ignoreCase rest
        | _ => none
      match named with
      | some (set, rest) => readClassItems? ignoreCase room negated (state.add ⟨set, 0⟩) fuel rest
      | none =>
        let (innerNegated, rest) := match rest with
          | '^' :: rest => (true, rest)
          | rest => (false, rest)
        let (inner, rest) := readClassStart rest
        if room = 0 then none
        else match readClassItems? ignoreCase (room - 1) innerNegated inner fuel rest with
          | some (item, rest) =>
            readClassItems? ignoreCase room negated (state.add item) fuel rest
          | none => none
    | text =>
      match readClassRange? text with
      | some (set, rest) => readClassItems? ignoreCase room negated (state.add ⟨set, 0⟩) fuel rest
      | none => none

/-- A class behind its opening bracket. -/
def readClass? (ignoreCase : Bool) (room fuel : Nat) (text : List Char) :
    Option (ReadClass × List Char) :=
  let (negated, rest) := match text with
    | '^' :: rest => (true, rest)
    | rest => (false, rest)
  let (state, rest) := readClassStart rest
  readClassItems? ignoreCase room negated state fuel rest

end Workflow.Pattern
