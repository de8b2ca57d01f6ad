import Workflow.Value.Basic

/-!
# Compact text of a tree

Values stand in rendered text as compact JSON: no spaces, object fields in the order of their keys,
and in strings only the quote, the backslash and the characters below the space escaped.
-/

namespace Workflow.Value

/-- A character of a string as it stands between the quotes. -/
def escape (c : Char) : List Char :=
  match c with
  | '"' => ['\\', '"']
  | '\\' => ['\\', '\\']
  | '\x08' => ['\\', 'b']
  | '\t' => ['\\', 't']
  | '\n' => ['\\', 'n']
  | '\x0c' => ['\\', 'f']
  | '\r' => ['\\', 'r']
  | c =>
    if c.toNat < 0x20 then
      ['\\', 'u', '0', '0', Nat.digitChar (c.toNat / 16), Nat.digitChar (c.toNat % 16)]
    else [c]

def quoted (text : String) : List Char :=
  '"' :: (text.toList.flatMap escape ++ ['"'])

mutual

/-- The compact text of a tree. -/
def chars : Value → List Char
  | .null => ['n', 'u', 'l', 'l']
  | .bool true => ['t', 'r', 'u', 'e']
  | .bool false => ['f', 'a', 'l', 's', 'e']
  | .number value => value.text
  | .string value => quoted value
  | .list [] => ['[', ']']
  | .list (item :: rest) => '[' :: (chars item ++ charsItems rest ++ [']'])
  | .object [] => ['\x7b', '\x7d']
  | .object ((key, value) :: rest) =>
    '\x7b' :: (quoted key ++ ':' :: chars value ++ charsFields rest ++ ['\x7d'])

def charsItems : List Value → List Char
  | [] => []
  | item :: rest => ',' :: (chars item ++ charsItems rest)

def charsFields : List (String × Value) → List Char
  | [] => []
  | (key, value) :: rest => ',' :: (quoted key ++ ':' :: chars value ++ charsFields rest)

end

def text (value : Value) : String :=
  String.ofList value.chars

/-- How a value stands inside other text: a string as it is, anything else as compact text. -/
def display : Value → String
  | .string value => value
  | value => value.text

end Workflow.Value
