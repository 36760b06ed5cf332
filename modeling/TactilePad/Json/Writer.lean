import TactilePad.Json.Tree
import TactilePad.Text.Form

/-!
# Writing JSON text

`Json.chars` is the compact text of a tree: no blanks, members and items in order.  In a string a
quote, a backslash and the control characters are escaped and every other character stands for
itself.
-/

namespace TactilePad.Json

/-- How one character is written in a string. -/
def escapeChar (c : Char) : List Char :=
  if c = '"' then ['\\', '"']
  else if c = '\\' then ['\\', '\\']
  else if c = '\x08' then ['\\', 'b']
  else if c = '\x0c' then ['\\', 'f']
  else if c = '\n' then ['\\', 'n']
  else if c = '\r' then ['\\', 'r']
  else if c = '\t' then ['\\', 't']
  else if c.toNat < 0x20 then
    ['\\', 'u', '0', '0', Text.hexDigit (c.toNat / 16), Text.hexDigit (c.toNat % 16)]
  else [c]

/-- A string with its quotes. -/
def stringChars (s : String) : List Char :=
  '"' :: s.toList.flatMap escapeChar ++ ['"']

mutual

/-- The compact text of a tree.  Only whole trees whose strings have a text have one of their
own. -/
def chars : Json → List Char
  | .null => ['n', 'u', 'l', 'l']
  | .bool true => ['t', 'r', 'u', 'e']
  | .bool false => ['f', 'a', 'l', 's', 'e']
  | .number n => n.chars
  | .string text? => stringChars (text?.getD "")
  | .array items _ => '[' :: itemChars items
  | .object members _ => '\x7b' :: memberChars members
  | .missing => []

/-- The items of an array and its closing bracket. -/
def itemChars : List Json → List Char
  | [] => [']']
  | [v] => v.chars ++ [']']
  | v :: items => v.chars ++ ',' :: itemChars items

/-- The members of an object and its closing brace. -/
def memberChars : List (Option String × Json) → List Char
  | [] => ['\x7d']
  | [(name?, v)] => stringChars (name?.getD "") ++ ':' :: v.chars ++ ['\x7d']
  | (name?, v) :: members =>
    stringChars (name?.getD "") ++ ':' :: v.chars ++ ',' :: memberChars members

end

/-- The compact text of a tree. -/
def render (v : Json) : String :=
  String.ofList v.chars

end TactilePad.Json
