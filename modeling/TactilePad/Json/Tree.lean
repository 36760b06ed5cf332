import TactilePad.Json.Numeral

/-!
# Trees of JSON text

A `Json` is the tree of a JSON text as far as the text goes.  A text that stops being JSON still has
a tree: containers that were not closed are marked, and `missing` stands where a value should have
been.  A reader that goes through the tree from left to right therefore meets what is wrong with the
text in the order of the text, and what is wrong with the values before it first.
-/

namespace TactilePad

inductive Json where
  | null
  | bool (b : Bool)
  | number (n : Json.Numeral)
  /-- A string; there is no text if its escapes leave half of a surrogate pair. -/
  | string (text? : Option String)
  /-- The items in order; not `closed` if the text stops being JSON inside. -/
  | array (items : List Json) (closed : Bool)
  /-- The members in order, each a name and a value.  As with a string, a name need not have a
  text. -/
  | object (members : List (Option String × Json)) (closed : Bool)
  /-- The text stops being JSON where this value should have been. -/
  | missing
  deriving Repr, Inhabited

namespace Json

/-- A string that has a text. -/
def text (s : String) : Json :=
  .string (some s)

/-- A closed object with the given names and values. -/
def record (fields : List (String × Json)) : Json :=
  .object (fields.map fun (name, value) => (some name, value)) true

/-! ### Whole trees -/

mutual

/-- The tree of a complete value: nothing in it is missing or left open. -/
def isWhole : Json → Bool
  | .null | .bool _ | .number _ | .string _ => true
  | .array items closed => closed && areWhole items
  | .object members closed => closed && haveWholeValues members
  | .missing => false

/-- Every tree of a list is whole. -/
def areWhole : List Json → Bool
  | [] => true
  | v :: items => v.isWhole && areWhole items

/-- Every member has a whole value. -/
def haveWholeValues : List (Option String × Json) → Bool
  | [] => true
  | (_, value) :: members => value.isWhole && haveWholeValues members

end

end Json

end TactilePad
