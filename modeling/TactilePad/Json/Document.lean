import TactilePad.Json.Token
import TactilePad.Json.Tree

/-!
# From text to tree

`Document.ofTokens` reads the tokens of a text from left to right, with the containers that are open
around the current place on a stack.  At the first token that cannot stand where it stands, or at
the end of the text, the open containers are wrapped up as far as they got.
-/

namespace TactilePad.Json

/-- A container that is open around the value that is being read. -/
inductive Frame
  /-- An array, with the items before this one, newest first. -/
  | item (before : List Json)
  /-- An object, with the members before this one, newest first, and this one's name. -/
  | member (before : List (Option String × Json)) (name? : Option String)

/-- What may come next. -/
inductive Place
  | value
  /-- The first item of an array, or its end. -/
  | firstItem
  /-- The first name of an object, or its end. -/
  | firstName
  /-- A further name of an object. -/
  | nextName (before : List (Option String × Json))
  | colon (before : List (Option String × Json)) (name? : Option String)
  /-- Whatever follows a value that has just been read. -/
  | follow (v : Json)

/-- The tree of a text. -/
structure Document where
  root : Json
  /-- The text is the root value and nothing else. -/
  complete : Bool

/-- Wrap up the open containers around a value. -/
def wrapUp : List Frame → Json → Json
  | [], v => v
  | .item before :: frames, v => wrapUp frames (.array (before.reverse ++ [v]) false)
  | .member before name? :: frames, v =>
    wrapUp frames (.object (before.reverse ++ [(name?, v)]) false)

/-- The value that a token is all by itself. -/
def Token.scalar? : Token → Option Json
  | .null => some .null
  | .bool b => some (.bool b)
  | .number n => some (.number n)
  | .string text? => some (.string text?)
  | _ => none

/-- Begin a value. -/
def begin? (frames : List Frame) (t : Token) : Option (Place × List Frame) :=
  match t with
  | .openBracket => some (.firstItem, frames)
  | .openBrace => some (.firstName, frames)
  | t => t.scalar?.map fun v => (.follow v, frames)

/-- Where a token leads; nowhere if it cannot stand at this place. -/
def advance? : Place → List Frame → Token → Option (Place × List Frame)
  | .value, frames, t => begin? frames t
  | .firstItem, frames, .closeBracket => some (.follow (.array [] true), frames)
  | .firstItem, frames, t => begin? (.item [] :: frames) t
  | .firstName, frames, .closeBrace => some (.follow (.object [] true), frames)
  | .firstName, frames, .string text? => some (.colon [] text?, frames)
  | .nextName before, frames, .string text? => some (.colon before text?, frames)
  | .colon before name?, frames, .colon => some (.value, .member before name? :: frames)
  | .follow v, .item before :: frames, .comma => some (.value, .item (v :: before) :: frames)
  | .follow v, .item before :: frames, .closeBracket =>
    some (.follow (.array (v :: before).reverse true), frames)
  | .follow v, .member before name? :: frames, .comma =>
    some (.nextName ((name?, v) :: before), frames)
  | .follow v, .member before name? :: frames, .closeBrace =>
    some (.follow (.object ((name?, v) :: before).reverse true), frames)
  | _, _, _ => none

/-- The tree as far as it got. -/
def Place.root : Place → List Frame → Json
  | .value, frames => wrapUp frames .missing
  | .firstItem, frames => wrapUp frames (.array [] false)
  | .firstName, frames => wrapUp frames (.object [] false)
  | .nextName before, frames => wrapUp frames (.object before.reverse false)
  | .colon before name?, frames => wrapUp (.member before name? :: frames) .missing
  | .follow v, frames => wrapUp frames v

/-- The text is complete if a value has been read and no container is open around it. -/
def Place.isEnd : Place → List Frame → Bool
  | .follow _, [] => true
  | _, _ => false

/-- Read the remaining tokens. -/
def readTokens : Place → List Frame → List Token → Document
  | place, frames, [] => ⟨place.root frames, place.isEnd frames⟩
  | place, frames, t :: ts =>
    match advance? place frames t with
    | some (place', frames') => readTokens place' frames' ts
    | none => ⟨place.root frames, false⟩

/-- The tree of a token list. -/
def Document.ofTokens (ts : List Token) : Document :=
  readTokens .value [] ts

/-- The tree of a text. -/
def Document.ofChars (cs : List Char) : Document :=
  .ofTokens (Token.scan cs)

end TactilePad.Json
