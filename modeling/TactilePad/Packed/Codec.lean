/-!
# Packed bytes

A `Codec` writes values as bytes and reads them back from the front of a byte string.  Bytes stand
for themselves, truth values are one byte, numbers are varints: seven bits a byte, lowest first,
every byte but the last with its high bit set.  A codec of a record is built from the codecs of its
fields, in order, with no bytes in between.

`Codec.Lawful` says what a good codec satisfies: reading undoes writing whatever bytes follow, and a
byte string that ends inside a written value is refused as ending early.
-/

namespace TactilePad.Packed

/-- Why bytes are refused. -/
inductive DecodeError
  /-- The bytes end inside a value. -/
  | unexpectedEnd
  /-- A truth value that is neither zero nor one. -/
  | badBool
  /-- A varint with too many bytes, or with bits beyond its range. -/
  | badVarint
  /-- A variant number that no variant has. -/
  | unknownVariant
  deriving DecidableEq, Repr

/-- A way to write values as bytes and to read them back. -/
structure Codec (α : Type) where
  encode : α → List UInt8
  /-- The value at the front of the bytes, and the bytes after it. -/
  decode : List UInt8 → Except DecodeError (α × List UInt8)

/-- Reading undoes writing, and refuses every proper front part of what was written. -/
structure Codec.Lawful {α : Type} (c : Codec α) : Prop where
  decode_encode : ∀ a rest, c.decode (c.encode a ++ rest) = .ok (a, rest)
  decode_of_lt : ∀ a front back, c.encode a = front ++ back → back ≠ [] →
    c.decode front = .error .unexpectedEnd

namespace Codec

variable {α β : Type}

/-! ### Primitive codecs -/

/-- A byte as itself. -/
def byte : Codec UInt8 where
  encode b := [b]
  decode
    | [] => .error .unexpectedEnd
    | b :: rest => .ok (b, rest)

/-- A truth value as zero or one. -/
def bool : Codec Bool where
  encode b := [if b then 1 else 0]
  decode
    | [] => .error .unexpectedEnd
    | b :: rest =>
      if b = 0 then .ok (false, rest)
      else if b = 1 then .ok (true, rest)
      else .error .badBool

/-- The bytes of a varint. -/
def varintBytes (n : Nat) : List UInt8 :=
  if n < 128 then [UInt8.ofNat n] else UInt8.ofNat (n % 128 + 128) :: varintBytes (n / 128)
termination_by n

/-- Read a varint of at most `bytes` bytes, of which the last possible one is at most `limit`.
Needlessly long forms within that length are read as well. -/
def readVarint (limit : UInt8) : (bytes : Nat) → List UInt8 →
    Except DecodeError (Nat × List UInt8)
  | 0, _ => .error .badVarint
  | _ + 1, [] => .error .unexpectedEnd
  | bytes + 1, b :: rest =>
    if b < 128 then
      if bytes = 0 && limit < b then .error .badVarint else .ok (b.toNat, rest)
    else
      (readVarint limit bytes rest).map fun (n, rest) => (b.toNat - 128 + 128 * n, rest)

/-- A 16-bit number as a varint of at most three bytes. -/
def word : Codec UInt16 where
  encode n := varintBytes n.toNat
  decode bytes := (readVarint 3 3 bytes).map fun (n, rest) => (UInt16.ofNat n, rest)

/-- One of finitely many variants, by its number as a 32-bit varint of at most five bytes. -/
def variant (index : α → Nat) (ofIndex? : Nat → Option α) : Codec α where
  encode a := varintBytes (index a)
  decode bytes :=
    (readVarint 15 5 bytes).bind fun (n, rest) =>
      match ofIndex? n with
      | some a => .ok (a, rest)
      | none => .error .unknownVariant

/-! ### Records -/

/-- One value after another. -/
def pair (a : Codec α) (b : Codec β) : Codec (α × β) where
  encode v := a.encode v.1 ++ b.encode v.2
  decode bytes :=
    (a.decode bytes).bind fun (x, rest) =>
      (b.decode rest).map fun (y, rest) => ((x, y), rest)

/-- A codec for a type that is another type in disguise. -/
def via (c : Codec α) (toRep : β → α) (ofRep : α → β) : Codec β where
  encode v := c.encode (toRep v)
  decode bytes := (c.decode bytes).map fun (a, rest) => (ofRep a, rest)

end Codec

end TactilePad.Packed
