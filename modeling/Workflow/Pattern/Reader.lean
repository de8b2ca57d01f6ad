import Workflow.Pattern.ClassReader

/-!
# Reading patterns

The text of a pattern is a list of branches divided by `|`, each a sequence of terms.  A term is a
character, a point, an anchor, an escape, a class or a group, and may be followed by repetitions.
Flags hold from where they are set to the end of their group.  Anything else is no pattern; there
is no look-around, there are no references back, and lazy repetitions match what greedy ones do.

With a pattern goes its depth, which tells how many parts of its text lie within one another:
groups, repetitions, classes, sequences of several terms and lists of several branches count.
-/

namespace Workflow.Pattern

def deepestNesting : Nat := 250

/-- What the flags of a group say. -/
structure Flags where
  ignoreCase : Bool := false
  multiline : Bool := false
  dotAll : Bool := false
  swapGreed : Bool := false

/-- Something that was read, and its depth. -/
structure Term where
  pattern : Pattern
  depth : Nat

/-- Branches that were read: the last comes first. -/
structure Branches where
  patterns : List Pattern := []
  deepest : Nat := 0

/-- A sequence that is being read: the terms before the last one, the last first; the last one, if
it may be repeated; the number of terms and the depth of the deepest; the branches before the
sequence; and the flags in force. -/
structure Branch where
  flags : Flags
  before : List Pattern := []
  last : Option Term := none
  count : Nat := 0
  deepest : Nat := 0
  earlier : Branches := {}

namespace Branch

def terms (branch : Branch) : List Pattern :=
  match branch.last with
  | none => branch.before
  | some last => last.pattern :: branch.before

def sequence (branch : Branch) : Term :=
  ⟨ofItems branch.terms.reverse, if branch.count < 2 then branch.deepest else branch.deepest + 1⟩

def closed (branch : Branch) : Branches :=
  let last := branch.sequence
  ⟨last.pattern :: branch.earlier.patterns, max branch.earlier.deepest last.depth⟩

def whole (branch : Branch) : Term :=
  match branch.earlier.patterns with
  | [] => branch.sequence
  | _ =>
    let branches := branch.closed
    ⟨ofBranches branches.patterns.reverse, branches.deepest + 1⟩

def add (branch : Branch) (term : Term) : Branch :=
  { branch with
    before := branch.terms
    last := some term
    count := branch.count + 1
    deepest := max branch.deepest term.depth }

def next (branch : Branch) : Branch :=
  { flags := branch.flags, earlier := branch.closed }

/-- Behind flags, which count as a term that nothing repeats. -/
def setFlags (branch : Branch) (flags : Flags) : Branch :=
  { branch with flags, before := branch.terms, last := none, count := branch.count + 1 }

/-- With the last term repeated; there must be one. -/
def repeatLast? (branch : Branch) (least : Nat) (most : Option Nat) (lazily : Bool) :
    Option Branch :=
  branch.last.map fun term =>
    let repeated := term.pattern.times least most (lazily == branch.flags.swapGreed)
    { branch with
      last := some ⟨repeated, term.depth + 1⟩
      deepest := max branch.deepest (term.depth + 1) }

end Branch

def charPattern (flags : Flags) (c : Char) : Pattern :=
  ofSet (Pattern.closed flags.ignoreCase false (.single c))

def escapePattern (flags : Flags) : Escape → Pattern
  | .char c => charPattern flags c
  | .charSet set => ofSet set
  | .boundary kind => .boundary kind

def dotPattern (flags : Flags) : Pattern :=
  .one (if flags.dotAll then .any else (CharSet.single '\n').complement)

/-- A number below `2 ^ 32` among blanks. -/
def readCount? (text : List Char) : Option (Nat × List Char) :=
  let text := Text.trimStart text
  let digits := text.takeWhile Char.isDigit
  let n := digits.foldl (fun n c => 10 * n + (c.toNat - '0'.toNat)) 0
  if !digits.isEmpty && n < Nat.pow 2 32 then
    some (n, Text.trimStart (text.dropWhile Char.isDigit))
  else none

/-- The bounds of a repetition behind their opening brace. -/
def readBounds? (text : List Char) : Option (Nat × Option Nat × List Char) :=
  match readCount? text with
  | none => none
  | some (least, rest) =>
    match rest with
    | '\x7d' :: rest => some (least, some least, rest)
    | ',' :: '\x7d' :: rest => some (least, none, rest)
    | ',' :: rest =>
      match readCount? rest with
      | some (most, '\x7d' :: rest) =>
        if least ≤ most then some (least, some most, rest) else none
      | _ => none
    | _ => none

/-- Whether a question mark makes a repetition lazy, and the text behind it. -/
def readLazy : List Char → Bool × List Char
  | '?' :: rest => (true, rest)
  | text => (false, text)

/-- Flag letters up to a colon or a closing parenthesis. Each may be set once, and one minus sign,
which must not be the last, turns to clearing. -/
def readFlags? (seen : List Char) (flags : Flags) : List Char → Option (Flags × List Char)
  | [] => none
  | ':' :: rest => if seen.head? == some '-' then none else some (flags, ':' :: rest)
  | ')' :: rest => if seen.head? == some '-' then none else some (flags, ')' :: rest)
  | c :: rest =>
    let value := !seen.contains '-'
    if seen.contains c then none
    else match c with
      | '-' => readFlags? (c :: seen) flags rest
      | 'U' => readFlags? (c :: seen) { flags with swapGreed := value } rest
      | 'i' => readFlags? (c :: seen) { flags with ignoreCase := value } rest
      | 'm' => readFlags? (c :: seen) { flags with multiline := value } rest
      | 's' => readFlags? (c :: seen) { flags with dotAll := value } rest
      | _ => none

/-- Whether `c` may stand in the name of a group, or begin it. -/
def isNameChar (c : Char) (first : Bool) : Bool :=
  c == '_' || (Text.isWord c && !(first && Text.isDigit c)) ||
    (!first && (c == '.' || c == '[' || c == ']'))

/-- The groups read so far: their number, and their names. -/
structure Groups where
  count : Nat := 0
  names : List String := []

/-- The name of a group, which no group before has, and the text behind its closing angle. -/
def readName? (names : List String) (text : List Char) : Option (String × List Char) :=
  match text.dropWhile (· != '>') with
  | '>' :: rest =>
    let chars := text.takeWhile (· != '>')
    let name := String.ofList chars
    match chars with
    | [] => none
    | c :: others =>
      if isNameChar c true && others.all (isNameChar · false) && !names.contains name then
        some (name, rest)
      else none
  | _ => none

/-- How a group begins: with its number, if it has one, or as flags for what follows. -/
inductive GroupStart
  | group (number : Option Nat) (flags : Flags) (groups : Groups)
  | flags (flags : Flags)

/-- The start of a group with a name. -/
def readNamedGroup? (flags : Flags) (groups : Groups) (text : List Char) :
    Option (GroupStart × List Char) :=
  (readName? groups.names text).map fun (name, rest) =>
    (.group (some (groups.count + 1)) flags ⟨groups.count + 1, name :: groups.names⟩, rest)

/-- What stands behind an opening parenthesis. -/
def readGroupStart? (flags : Flags) (groups : Groups) :
    List Char → Option (GroupStart × List Char)
  | '?' :: 'P' :: '<' :: rest => readNamedGroup? flags groups rest
  | '?' :: '<' :: rest => readNamedGroup? flags groups rest
  | '?' :: ')' :: _ => none
  | '?' :: rest =>
    match readFlags? [] flags rest with
    | some (flags, ':' :: rest) => some (.group none flags groups, rest)
    | some (flags, ')' :: rest) => some (.flags flags, rest)
    | _ => none
  | rest =>
    some (.group (some (groups.count + 1)) flags { groups with count := groups.count + 1 }, rest)

def groupTerm (number : Option Nat) (inside : Term) : Term :=
  match number with
  | none => ⟨inside.pattern, inside.depth + 1⟩
  | some number => ⟨.group number inside.pattern, inside.depth + 1⟩

/-- What was read of a group: its branches, the groups so far, and the text from its closing
parenthesis on. -/
structure ReadGroup where
  inside : Term
  groups : Groups
  rest : List Char

/-- The branches of a group up to its closing parenthesis or the end of the text. At most `room`
more groups may be open at a time. Each term takes up a character, so the length of the text bounds
the fuel. -/
def readBranches? (room : Nat) (groups : Groups) (branch : Branch) :
    Nat → List Char → Option ReadGroup
  | 0, _ => none
  | fuel + 1, text =>
    match text with
    | [] => some ⟨branch.whole, groups, []⟩
    | ')' :: _ => some ⟨branch.whole, groups, text⟩
    | '|' :: rest => readBranches? room groups branch.next fuel rest
    | '(' :: rest =>
      match readGroupStart? branch.flags groups rest with
      | some (.flags flags, rest) => readBranches? room groups (branch.setFlags flags) fuel rest
      | some (.group number flags groups, rest) =>
        if room = 0 then none
        else match readBranches? (room - 1) groups { flags } fuel rest with
          | some ⟨inside, groups, ')' :: rest⟩ =>
            readBranches? room groups (branch.add (groupTerm number inside)) fuel rest
          | _ => none
      | none => none
    | '[' :: rest =>
      match readClass? branch.flags.ignoreCase deepestNesting fuel rest with
      | some (read, rest) =>
        readBranches? room groups (branch.add ⟨ofSet read.set, read.depth⟩) fuel rest
      | none => none
    | '*' :: rest =>
      let (lazily, rest) := readLazy rest
      match branch.repeatLast? 0 none lazily with
      | some branch => readBranches? room groups branch fuel rest
      | none => none
    | '+' :: rest =>
      let (lazily, rest) := readLazy rest
      match branch.repeatLast? 1 none lazily with
      | some branch => readBranches? room groups branch fuel rest
      | none => none
    | '?' :: rest =>
      let (lazily, rest) := readLazy rest
      match branch.repeatLast? 0 (some 1) lazily with
      | some branch => readBranches? room groups branch fuel rest
      | none => none
    | '\x7b' :: rest =>
      match readBounds? rest with
      | some (least, most, rest) =>
        let (lazily, rest) := readLazy rest
        match branch.repeatLast? least most lazily with
        | some branch => readBranches? room groups branch fuel rest
        | none => none
      | none => none
    | '\\' :: rest =>
      match readEscape? rest with
      | some (escape, rest) =>
        readBranches? room groups (branch.add ⟨escapePattern branch.flags escape, 0⟩) fuel rest
      | none => none
    | '.' :: rest =>
      readBranches? room groups (branch.add ⟨dotPattern branch.flags, 0⟩) fuel rest
    | '^' :: rest =>
      let kind := if branch.flags.multiline then .lineStart else .textStart
      readBranches? room groups (branch.add ⟨.boundary kind, 0⟩) fuel rest
    | '$' :: rest =>
      let kind := if branch.flags.multiline then .lineEnd else .textEnd
      readBranches? room groups (branch.add ⟨.boundary kind, 0⟩) fuel rest
    | c :: rest =>
      readBranches? room groups (branch.add ⟨charPattern branch.flags c, 0⟩) fuel rest

/-- The pattern that a whole text writes, if its parts do not lie too deep within one another. -/
def read? (text : String) : Option Pattern :=
  let chars := text.toList
  match readBranches? deepestNesting {} { flags := {} } (chars.length + 1) chars with
  | some ⟨⟨pattern, depth⟩, _, []⟩ => if depth ≤ deepestNesting then some pattern else none
  | _ => none

end Workflow.Pattern
