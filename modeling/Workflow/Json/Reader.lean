import Workflow.Json.Basic

/-!
# Reading JSON text

`Json.read?` reads one JSON value that takes up the whole text, blanks around it aside.  The
grammar is the strict one: no comments, no trailing commas, no leading zeros, no control characters
in strings.  Lists and objects deeper than `maxDepth` are unreadable.

Each reader takes the text that is left and gives the text after what it read.  The readers call
each other at most once for each character, so the length of the text bounds their fuel.
-/

namespace Workflow.Json

/-- How deep lists and objects may be nested. -/
def maxDepth : Nat := 127

/-- The text after the blanks that may stand between tokens. -/
def skipBlanks : List Char → List Char
  | c :: rest => if c = ' ' || c = '\t' || c = '\n' || c = '\r' then skipBlanks rest else c :: rest
  | [] => []

/-- The text after `word`, if it starts with it. -/
def expect? : List Char → List Char → Option (List Char)
  | [], text => some text
  | _ :: _, [] => none
  | c :: word, d :: text => if c = d then expect? word text else none

def readDigits? (text : List Char) : Option (List Nat × List Char) :=
  match Number.takeDigits text with
  | ([], _) => none
  | (digits, rest) => some (digits, rest)

/-- The digits before the point, without a leading zero. -/
def readWhole? (text : List Char) : Option (List Nat × List Char) :=
  match readDigits? text with
  | some (0 :: _ :: _, _) => none
  | other => other

def readFraction? : List Char → Option (Option (List Nat) × List Char)
  | '.' :: text => (readDigits? text).map fun (digits, rest) => (some digits, rest)
  | text => some (none, text)

/-- The digits of an exponent behind its sign. -/
def readExponentDigits? (negative : Bool) (text : List Char) :
    Option (Option (Bool × List Nat) × List Char) :=
  (readDigits? text).map fun (digits, rest) => (some (negative, digits), rest)

def readExponent? : List Char → Option (Option (Bool × List Nat) × List Char)
  | mark :: text =>
    if mark = 'e' || mark = 'E' then
      match text with
      | '+' :: rest => readExponentDigits? false rest
      | '-' :: rest => readExponentDigits? true rest
      | rest => readExponentDigits? false rest
    else some (none, mark :: text)
  | [] => some (none, [])

/-- A number behind its sign. -/
def readNumeral? (negative : Bool) (text : List Char) : Option (Json × List Char) := do
  let (whole, text) ← readWhole? text
  let (fraction, text) ← readFraction? text
  let (exponent, text) ← readExponent? text
  let numeral : Number.Numeral := ⟨negative, whole, fraction, exponent⟩
  return ((numeral.toNumber?.map .number).getD .unreadable, text)

/-- A piece of a string: a character, or a code unit written as an escape of four digits. -/
inductive Piece
  | char (c : Char)
  | unit (code : Nat)
  deriving Repr

def hexDigit? (c : Char) : Option Nat :=
  if c.isDigit then some (c.toNat - '0'.toNat)
  else if 'a' ≤ c && c ≤ 'f' then some (c.toNat - 'a'.toNat + 10)
  else if 'A' ≤ c && c ≤ 'F' then some (c.toNat - 'A'.toNat + 10)
  else none

/-- The number that four hexadecimal digits denote. -/
def codeUnit? (a b c d : Char) : Option Nat := do
  let a ← hexDigit? a
  let b ← hexDigit? b
  let c ← hexDigit? c
  let d ← hexDigit? d
  return ((a * 16 + b) * 16 + c) * 16 + d

/-- The character that a backslash and the letter `c` stand for. -/
def shortEscape? (c : Char) : Option Char :=
  match c with
  | '"' => some '"'
  | '\\' => some '\\'
  | '/' => some '/'
  | 'b' => some '\x08'
  | 'f' => some '\x0c'
  | 'n' => some '\n'
  | 'r' => some '\r'
  | 't' => some '\t'
  | _ => none

/-- The pieces of a string up to its closing quote, the latest first in `read`. -/
def readPieces? (read : List Piece) : List Char → Option (List Piece × List Char)
  | [] => none
  | '"' :: rest => some (read.reverse, rest)
  | '\\' :: 'u' :: a :: b :: c :: d :: rest =>
    match codeUnit? a b c d with
    | some code => readPieces? (.unit code :: read) rest
    | none => none
  | '\\' :: c :: rest =>
    match shortEscape? c with
    | some c => readPieces? (.char c :: read) rest
    | none => none
  | c :: rest => if c.toNat < 0x20 then none else readPieces? (.char c :: read) rest

/-- The text of the pieces. Two code units of a surrogate pair make one character; half a pair makes
none. -/
def joinPieces? : List Piece → Option (List Char)
  | [] => some []
  | .char c :: rest => (joinPieces? rest).map (c :: ·)
  | .unit high :: .unit low :: rest =>
    if 0xD800 ≤ high && high < 0xDC00 then
      if 0xDC00 ≤ low && low < 0xE000 then
        let code := 0x10000 + (high - 0xD800) * 0x400 + (low - 0xDC00)
        (joinPieces? rest).map (Char.ofNat code :: ·)
      else none
    else if 0xDC00 ≤ high && high < 0xE000 then none
    else (joinPieces? (.unit low :: rest)).map (Char.ofNat high :: ·)
  | .unit code :: rest =>
    if 0xD800 ≤ code && code < 0xE000 then none
    else (joinPieces? rest).map (Char.ofNat code :: ·)

/-- A string behind its opening quote; it may turn out to have no value. -/
def readString? (text : List Char) : Option (Option String × List Char) :=
  (readPieces? [] text).map fun (pieces, rest) =>
    ((joinPieces? pieces).map String.ofList, rest)

/-- A list or object, or what stands for one that is nested too deep. -/
def bounded (depth : Nat) (json : Json) : Json :=
  if depth ≤ maxDepth then json else .unreadable

mutual

/-- A value; `depth` counts the lists and objects around it. -/
def readValue? (depth : Nat) : Nat → List Char → Option (Json × List Char)
  | 0, _ => none
  | fuel + 1, text =>
    match skipBlanks text with
    | [] => none
    | '[' :: rest =>
      match skipBlanks rest with
      | ']' :: rest => some (bounded (depth + 1) (.list []), rest)
      | rest => (readItems? (depth + 1) [] fuel rest).map fun (items, rest) =>
          (bounded (depth + 1) (.list items), rest)
    | '\x7b' :: rest =>
      match skipBlanks rest with
      | '\x7d' :: rest => some (bounded (depth + 1) (.object []), rest)
      | rest => (readFields? (depth + 1) (some []) fuel rest).map fun (fields, rest) =>
          (bounded (depth + 1) ((fields.map .object).getD .unreadable), rest)
    | '"' :: rest => (readString? rest).map fun (value, rest) =>
        ((value.map .string).getD .unreadable, rest)
    | 'n' :: rest => (expect? ['u', 'l', 'l'] rest).map ((.null, ·))
    | 't' :: rest => (expect? ['r', 'u', 'e'] rest).map ((.bool true, ·))
    | 'f' :: rest => (expect? ['a', 'l', 's', 'e'] rest).map ((.bool false, ·))
    | '-' :: rest => readNumeral? true rest
    | rest => readNumeral? false rest

/-- The items of a list up to its end, the latest first in `read`. -/
def readItems? (depth : Nat) (read : List Json) :
    Nat → List Char → Option (List Json × List Char)
  | 0, _ => none
  | fuel + 1, text =>
    match readValue? depth fuel text with
    | none => none
    | some (item, rest) =>
      match skipBlanks rest with
      | ',' :: rest => readItems? depth (item :: read) fuel rest
      | ']' :: rest => some ((item :: read).reverse, rest)
      | _ => none

/-- The fields of an object up to its end, the latest first in `read`; a key without a value leaves
none. -/
def readFields? (depth : Nat) (read : Option (List (String × Json))) :
    Nat → List Char → Option (Option (List (String × Json)) × List Char)
  | 0, _ => none
  | fuel + 1, text =>
    match skipBlanks text with
    | '"' :: rest =>
      match readString? rest with
      | none => none
      | some (key, rest) =>
        match skipBlanks rest with
        | ':' :: rest =>
          match readValue? depth fuel rest with
          | none => none
          | some (value, rest) =>
            let read := match key, read with
              | some key, some read => some ((key, value) :: read)
              | _, _ => none
            match skipBlanks rest with
            | ',' :: rest => readFields? depth read fuel rest
            | '\x7d' :: rest => some (read.map List.reverse, rest)
            | _ => none
        | _ => none
    | _ => none

end

/-- The JSON value that a whole text writes. -/
def read? (text : String) : Option Json :=
  let chars := text.toList
  match readValue? 0 (2 * chars.length + 2) chars with
  | some (json, rest) => if (skipBlanks rest).isEmpty then some json else none
  | none => none

end Workflow.Json
