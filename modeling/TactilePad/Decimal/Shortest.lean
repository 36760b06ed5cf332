import TactilePad.Text.Digits

/-!
# The shortest decimal of a floating-point number

A finite double is `m * 2 ^ q`.  The reals that round to it form an interval around it; its ends
belong to the interval when `m` is even.  `shortest` finds the decimal `d * 10 ^ k` with the fewest
digits that lies in the interval, and of two such decimals the nearer one.  All arithmetic is exact.
-/

namespace TactilePad.Decimal

/-- A positive finite double `m * 2 ^ q`. -/
structure Binary where
  m : Nat
  q : Int
  /-- The next smaller double is only half as far away as the next larger one. -/
  narrowBelow : Bool
  deriving DecidableEq, Repr

/-- A decimal `d * 10 ^ k`. -/
structure Scaled where
  d : Nat
  k : Int
  deriving DecidableEq, Repr

/-- The same decimal without trailing zeros. -/
def Scaled.reduce (s : Scaled) : Scaled :=
  if s.d ≠ 0 ∧ s.d % 10 = 0 then reduce ⟨s.d / 10, s.k + 1⟩ else s
termination_by s.d
decreasing_by omega

/-- The magnitude of a finite double from its bits, zero apart. -/
def Binary.ofBits (bits : UInt64) : Binary :=
  let fraction := bits.toNat % Nat.pow 2 52
  let exponent : Nat := bits.toNat / Nat.pow 2 52 % Nat.pow 2 11
  if exponent = 0 then ⟨fraction, -1074, false⟩
  else ⟨fraction + Nat.pow 2 52, (exponent : Int) - 1075, fraction = 0 && exponent ≠ 1⟩

namespace Binary

/-- Compare `d * 10 ^ k` with `u * 2 ^ (b.q - 2)` by clearing all denominators. -/
def compareQuarter (b : Binary) (s : Scaled) (u : Nat) : Ordering :=
  let p := b.q - 2
  compare (s.d * Nat.pow 10 s.k.toNat * Nat.pow 2 (-p).toNat)
    (u * Nat.pow 2 p.toNat * Nat.pow 10 (-s.k).toNat)

/-- Whether a decimal rounds to the double. -/
def rounds (b : Binary) (s : Scaled) : Bool :=
  let low := b.compareQuarter s (4 * b.m - if b.narrowBelow then 1 else 2)
  let high := b.compareQuarter s (4 * b.m + 2)
  let closed := b.m % 2 = 0
  (low == .gt || closed && low == .eq) && (high == .lt || closed && high == .eq)

/-- The greatest multiple of `10 ^ k` that is not above the double, in units of `10 ^ k`. -/
def floorAt (b : Binary) (k : Int) : Nat :=
  b.m * Nat.pow 2 b.q.toNat * Nat.pow 10 (-k).toNat /
    (Nat.pow 2 (-b.q).toNat * Nat.pow 10 k.toNat)

/-- The exponent of the leading decimal digit: the greatest power of ten not above the double. -/
def leadingExponent (b : Binary) : Int :=
  let candidates := (List.range 640).map fun (i : Nat) => (308 : Int) - i
  (candidates.find? fun k => b.floorAt k ≠ 0).getD (-324)

/-- Of the two neighbours of the double on the grid of `10 ^ k`, the nearer one that rounds to it.
Half way, the even one is taken. -/
def nearestOnGrid? (b : Binary) (k : Int) : Option Scaled :=
  let below : Scaled := ⟨b.floorAt k, k⟩
  let above : Scaled := ⟨below.d + 1, k⟩
  match b.rounds below, b.rounds above with
  | true, false => some below
  | false, true => some above
  | false, false => none
  | true, true =>
    -- The midpoint of the two neighbours, on the grid of `10 ^ (k - 1)`.
    match b.compareQuarter ⟨below.d * 10 + 5, k - 1⟩ (4 * b.m) with
    | .gt => some below
    | .lt => some above
    | .eq => some (if below.d % 2 = 0 then below else above)

/-- The shortest decimal that rounds to the double; seventeen digits always suffice. -/
def shortest (b : Binary) : Scaled :=
  let k := b.leadingExponent
  let found? := (List.range 17).findSome? fun (i : Nat) => b.nearestOnGrid? (k - i)
  (found?.getD ⟨b.floorAt k, k⟩).reduce

end Binary

/-- How a decimal is laid out. -/
structure Layout where
  /-- Positional notation is used while the decimal point stands after at most so many digits. -/
  maxPoint : Int
  /-- Positional notation is used while the decimal point stands more than so many places before
  the first digit. -/
  minPoint : Int
  /-- A positive exponent is written with a plus sign. -/
  plusSign : Bool

/-- `d * 10 ^ k`, positional where the layout says so and otherwise with one digit before the point
and an exponent.  A whole number in positional notation ends in `.0`. -/
def Layout.render (layout : Layout) (s : Scaled) : String :=
  let ds := (Text.digits s.d).map Text.digitChar
  let point : Int := ds.length + s.k
  if 0 ≤ s.k ∧ point ≤ layout.maxPoint then
    String.ofList (ds ++ List.replicate s.k.toNat '0' ++ ['.', '0'])
  else if 0 < point ∧ point ≤ layout.maxPoint then
    String.ofList (ds.take point.toNat ++ ['.'] ++ ds.drop point.toNat)
  else if layout.minPoint < point ∧ point ≤ 0 then
    String.ofList (['0', '.'] ++ List.replicate (-point).toNat '0' ++ ds)
  else
    let tail := if ds.length ≤ 1 then [] else '.' :: ds.drop 1
    let sign := if layout.plusSign ∧ 0 < point then "+" else ""
    String.ofList (ds.take 1 ++ tail) ++ "e" ++ sign ++ Text.signedDecimal (point - 1)

/-- The text of a finite double: its sign, then its shortest decimal in the given layout. -/
def Layout.renderFloat (layout : Layout) (f : Float) : String :=
  let bits := f.toBits
  let sign := if bits.toNat / Nat.pow 2 63 = 1 then "-" else ""
  let b := Binary.ofBits bits
  sign ++ if b.m = 0 then "0.0" else layout.render b.shortest

end TactilePad.Decimal
