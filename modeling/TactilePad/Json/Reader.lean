import TactilePad.Json.Document
import TactilePad.Text.Quoted

/-!
# Reading values out of JSON text

A reader goes through the tree of a text from left to right and answers with the first problem that
it meets: what is wrong with a value is found before what is wrong with the text after it.  A record
is read from an object, its members in any order, or from an array with its fields in order.
Members with other names are skipped; a member that comes twice is refused at its name; the first
missing field is named once the object has been closed.
-/

namespace TactilePad.Json

/-! ### Problems -/

/-- What was found instead of the expected. -/
inductive Found
  | null
  | boolean (b : Bool)
  | integer (i : Int)
  | floating (n : Numeral)
  | string (s : String)
  | sequence
  | map
  deriving DecidableEq, Repr

/-- What was expected. -/
inductive Expected
  | byte
  | word
  | boolean
  | unit
  | record (name : String)
  deriving DecidableEq, Repr

/-- Why a text is refused. -/
inductive DecodeError
  /-- The text is not JSON, or not of a shape that the reader goes into. -/
  | malformed
  | invalidType (found : Found) (expected : Expected)
  | invalidValue (found : Found) (expected : Expected)
  | missingField (name : String)
  | duplicateField (name : String)
  /-- A variant that is none of the two known ones. -/
  | unknownVariant (name first second : String)
  /-- An array with fewer items than the record has fields. -/
  | invalidLength (items : Nat) (record : String) (fields : Nat)
  deriving DecidableEq, Repr

/-- A name or a number between back quotes. -/
def backQuoted (s : String) : String :=
  "`" ++ s ++ "`"

def Found.describe : Found → String
  | .null => "null"
  | .boolean b => "boolean " ++ backQuoted (Text.truth b)
  | .integer i => "integer " ++ backQuoted (Text.signedDecimal i)
  | .floating n => "floating point " ++ backQuoted n.floatText
  | .string s => "string " ++ Text.quoted s
  | .sequence => "sequence"
  | .map => "map"

def Expected.describe : Expected → String
  | .byte => "u8"
  | .word => "u16"
  | .boolean => "a boolean"
  | .unit => "unit"
  | .record name => "struct " ++ name

/-- The sentence for a problem with the values; there is none for a malformed text. -/
def DecodeError.message? : DecodeError → Option String
  | .malformed => none
  | .invalidType found expected =>
    some ("invalid type: " ++ found.describe ++ ", expected " ++ expected.describe)
  | .invalidValue found expected =>
    some ("invalid value: " ++ found.describe ++ ", expected " ++ expected.describe)
  | .missingField name => some ("missing field " ++ backQuoted name)
  | .duplicateField name => some ("duplicate field " ++ backQuoted name)
  | .unknownVariant name first second =>
    some ("unknown variant " ++ backQuoted name ++ ", expected " ++ backQuoted first ++ " or "
      ++ backQuoted second)
  | .invalidLength items record fields =>
    some ("invalid length " ++ Text.decimal items ++ ", expected struct " ++ record ++ " with "
      ++ Text.decimal fields ++ " elements")

/-- A reader of values of a type. -/
abbrev Reader (α : Type) : Type :=
  Json → Except DecodeError α

/-! ### Scalars -/

/-- What stands in the text, if it is well formed so far. -/
def found : Reader Found
  | .null => .ok .null
  | .bool b => .ok (.boolean b)
  | .number n =>
    match n.toInt? with
    | some i => .ok (.integer i)
    | none => if n.hasValue then .ok (.floating n) else .error .malformed
  | .string (some s) => .ok (.string s)
  | .array _ _ => .ok .sequence
  | .object _ _ => .ok .map
  | .string none | .missing => .error .malformed

/-- The problem of a value that is of another type than the expected. -/
def mismatch {α : Type} (expected : Expected) : Reader α := fun v =>
  (found v).bind fun f => .error (.invalidType f expected)

def readBool : Reader Bool
  | .bool b => .ok b
  | v => mismatch .boolean v

/-- An integer in the range of an unsigned type with the given number of values. -/
def readUnsigned {α : Type} (values : Nat) (ofNat : Nat → α) (expected : Expected) : Reader α
  | .number n =>
    match n.toInt? with
    | some i =>
      if 0 ≤ i ∧ i < values then .ok (ofNat i.toNat)
      else .error (.invalidValue (.integer i) expected)
    | none => mismatch expected (.number n)
  | v => mismatch expected v

def readByte : Reader UInt8 :=
  readUnsigned 256 UInt8.ofNat .byte

def readWord : Reader UInt16 :=
  readUnsigned 65536 UInt16.ofNat .word

def readUnit : Reader Unit
  | .null => .ok ()
  | v => mismatch .unit v

/-- One of two variants, by its name alone or as the only name of an object whose value is null. -/
def readVariant {α : Type} (first second : String × α) : Reader α
  | .string (some name) => byName name
  | .object ((some name, value) :: members) closed => do
    let a ← byName name
    readUnit value
    if members.isEmpty && closed then return a else throw .malformed
  | _ => .error .malformed
where
  byName (name : String) : Except DecodeError α :=
    if name = first.1 then .ok first.2
    else if name = second.1 then .ok second.2
    else .error (.unknownVariant name first.1 second.1)

/-! ### Records -/

/-- How the fields of a record are read.  The state `σ` holds the fields that were seen so far. -/
structure Fields (σ α : Type) where
  count : Nat
  /-- No field has been seen. -/
  start : σ
  /-- Offer a member; `none` if its name is not that of a field. -/
  put? : String → Json → σ → Option (Except DecodeError σ)
  /-- The values once all members have been seen. -/
  finish : σ → Except DecodeError α
  /-- The values from items in the order of the fields, and the items left over.  The error is
  `none` if there are too few items. -/
  take : List Json → Except (Option DecodeError) (α × List Json)

namespace Fields

variable {σ τ α β : Type}

/-- A single field. -/
def one (name : String) (read : Reader α) : Fields (Option α) α where
  count := 1
  start := none
  put? n v seen? :=
    if n = name then
      some (match seen? with
        | some _ => .error (.duplicateField name)
        | none => (read v).map some)
    else none
  finish
    | some a => .ok a
    | none => .error (.missingField name)
  take
    | [] => .error none
    | v :: items =>
      match read v with
      | .ok a => .ok (a, items)
      | .error e => .error (some e)

/-- The fields of two readers, those of the first before those of the second. -/
def both (a : Fields σ α) (b : Fields τ β) : Fields (σ × τ) (α × β) where
  count := a.count + b.count
  start := (a.start, b.start)
  put? n v s :=
    match a.put? n v s.1 with
    | some r => some (r.map fun s₁ => (s₁, s.2))
    | none => (b.put? n v s.2).map fun r => r.map fun s₂ => (s.1, s₂)
  finish s := (a.finish s.1).bind fun x => (b.finish s.2).map fun y => (x, y)
  take items :=
    (a.take items).bind fun (x, rest) => (b.take rest).map fun (y, rest) => ((x, y), rest)

/-- Read the members of an object one after another. -/
def absorb (fields : Fields σ α) : σ → List (Option String × Json) → Except DecodeError σ
  | s, [] => .ok s
  | s, (some name, value) :: members =>
    match fields.put? name value s with
    | some r => r.bind fun s' => fields.absorb s' members
    | none => if value.isWhole then fields.absorb s members else .error .malformed
  | _, (none, _) :: _ => .error .malformed

/-- Read a record of the given name from an object or an array. -/
def read (fields : Fields σ α) (name : String) : Reader α
  | .object members closed =>
    (fields.absorb fields.start members).bind fun s =>
      if closed then fields.finish s else .error .malformed
  | .array items closed =>
    match fields.take items with
    | .ok (a, rest) => if rest.isEmpty && closed then .ok a else .error .malformed
    | .error (some e) => .error e
    | .error none =>
      if closed then .error (.invalidLength items.length name fields.count)
      else .error .malformed
  | v => mismatch (.record name) v

end Fields

/-! ### Texts -/

/-- Read a text that holds one value and nothing else. -/
def decodeChars {α : Type} (read : Reader α) (cs : List Char) : Except DecodeError α :=
  let document := Document.ofChars cs
  (read document.root).bind fun a => if document.complete then .ok a else .error .malformed

def decode {α : Type} (read : Reader α) (text : String) : Except DecodeError α :=
  decodeChars read text.toList

end TactilePad.Json
