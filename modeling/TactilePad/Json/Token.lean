import TactilePad.Json.Numeral

/-!
# Tokens of JSON text

`Token.scan` cuts a text into tokens and drops the blanks between them.  Where the text is no token
it ends with `stray`, and nothing after that is looked at.
-/

namespace TactilePad.Json

inductive Token
  | openBrace
  | closeBrace
  | openBracket
  | closeBracket
  | colon
  | comma
  | null
  | bool (b : Bool)
  | number (n : Numeral)
  /-- A string; there is no text if its escapes leave half of a surrogate pair. -/
  | string (text? : Option String)
  /-- The text is no token here. -/
  | stray
  deriving DecidableEq, Repr

/-! ### Digits -/

def isDigit (c : Char) : Bool :=
  '0' ≤ c && c ≤ '9'

def digitValue (c : Char) : Nat :=
  c.toNat - '0'.toNat

/-- The digits at the front of a text, and the text after them. -/
def splitDigits (cs : List Char) : List Nat × List Char :=
  ((cs.takeWhile isDigit).map digitValue, cs.dropWhile isDigit)

/-- The value of a hexadecimal digit of either case. -/
def hexValue? (c : Char) : Option Nat :=
  if isDigit c then some (digitValue c)
  else if 'a' ≤ c && c ≤ 'f' then some (c.toNat - 'a'.toNat + 10)
  else if 'A' ≤ c && c ≤ 'F' then some (c.toNat - 'A'.toNat + 10)
  else none

/-- The number that four hexadecimal digits stand for. -/
def hexCode? (a b c d : Char) : Option Nat := do
  return (((← hexValue? a) * 16 + (← hexValue? b)) * 16 + (← hexValue? c)) * 16 + (← hexValue? d)

/-! ### Numbers -/

/-- The fraction of a number, if there is a point: at least one digit must follow it. -/
def readFraction? : List Char → Option (List Nat × List Char)
  | '.' :: cs =>
    match splitDigits cs with
    | ([], _) => none
    | (ds, rest) => some (ds, rest)
  | cs => some ([], cs)

/-- The digits of an exponent, at least one. -/
def readExponentDigits? (negative : Bool) (cs : List Char) :
    Option (Option (Bool × List Nat) × List Char) :=
  match splitDigits cs with
  | ([], _) => none
  | (ds, rest) => some (some (negative, ds), rest)

/-- The exponent of a number, if there is one. -/
def readExponent? : List Char → Option (Option (Bool × List Nat) × List Char)
  | 'e' :: '+' :: cs | 'E' :: '+' :: cs => readExponentDigits? false cs
  | 'e' :: '-' :: cs | 'E' :: '-' :: cs => readExponentDigits? true cs
  | 'e' :: cs | 'E' :: cs => readExponentDigits? false cs
  | cs => some (none, cs)

/-- A number without its sign: no digit may follow a leading zero. -/
def readUnsigned? (negative : Bool) (cs : List Char) : Option (Numeral × List Char) :=
  match splitDigits cs with
  | ([], _) | (0 :: _ :: _, _) => none
  | (whole, rest) => do
    let (fraction, rest) ← readFraction? rest
    let (exponent?, rest) ← readExponent? rest
    return ({ negative, whole, fraction, exponent? }, rest)

/-! ### Strings -/

/-- A piece of a string: a character, or a UTF-16 unit that was written as an escape. -/
inductive Piece
  | char (c : Char)
  | unit (code : Nat)
  deriving DecidableEq, Repr

/-- The character that a one-letter escape stands for. -/
def escapedChar? : Char → Option Char
  | '"' => some '"'
  | '\\' => some '\\'
  | '/' => some '/'
  | 'b' => some '\x08'
  | 'f' => some '\x0c'
  | 'n' => some '\n'
  | 'r' => some '\r'
  | 't' => some '\t'
  | _ => none

/-- The pieces of a string up to its closing quote, and the text after it.  Control characters must
be escaped. -/
def readPieces? : List Char → Option (List Piece × List Char)
  | '"' :: cs => some ([], cs)
  | '\\' :: 'u' :: a :: b :: c :: d :: cs =>
    match hexCode? a b c d, readPieces? cs with
    | some code, some (pieces, rest) => some (.unit code :: pieces, rest)
    | _, _ => none
  | '\\' :: c :: cs =>
    match escapedChar? c, readPieces? cs with
    | some c, some (pieces, rest) => some (.char c :: pieces, rest)
    | _, _ => none
  | c :: cs =>
    if c.toNat < 0x20 then none
    else
      match readPieces? cs with
      | some (pieces, rest) => some (.char c :: pieces, rest)
      | none => none
  | [] => none

/-- The first half of a surrogate pair. -/
def isLeading (code : Nat) : Bool :=
  0xD800 ≤ code && code ≤ 0xDBFF

/-- The second half of a surrogate pair. -/
def isTrailing (code : Nat) : Bool :=
  0xDC00 ≤ code && code ≤ 0xDFFF

/-- The characters of a string.  Escaped units of a surrogate pair make one character together; half
a pair makes none. -/
def joinPieces? : List Piece → Option (List Char)
  | [] => some []
  | .char c :: pieces => (joinPieces? pieces).map (c :: ·)
  | .unit high :: .unit low :: pieces =>
    if isLeading high then
      if isTrailing low then
        (joinPieces? pieces).map
          (Char.ofNat ((high - 0xD800) * 1024 + (low - 0xDC00) + 0x10000) :: ·)
      else none
    else if isTrailing high then none
    else (joinPieces? (.unit low :: pieces)).map (Char.ofNat high :: ·)
  | .unit code :: pieces =>
    if isLeading code || isTrailing code then none
    else (joinPieces? pieces).map (Char.ofNat code :: ·)

/-! ### The scanner -/

def isBlank (c : Char) : Bool :=
  c = ' ' || c = '\n' || c = '\t' || c = '\r'

/-- The token at the front of a text that starts with no blank, and the text after it. -/
def readToken? : List Char → Option (Token × List Char)
  | '\x7b' :: cs => some (.openBrace, cs)
  | '\x7d' :: cs => some (.closeBrace, cs)
  | '[' :: cs => some (.openBracket, cs)
  | ']' :: cs => some (.closeBracket, cs)
  | ':' :: cs => some (.colon, cs)
  | ',' :: cs => some (.comma, cs)
  | 'n' :: 'u' :: 'l' :: 'l' :: cs => some (.null, cs)
  | 't' :: 'r' :: 'u' :: 'e' :: cs => some (.bool true, cs)
  | 'f' :: 'a' :: 'l' :: 's' :: 'e' :: cs => some (.bool false, cs)
  | '"' :: cs =>
    (readPieces? cs).map fun (pieces, rest) =>
      (.string ((joinPieces? pieces).map String.ofList), rest)
  | '-' :: cs => (readUnsigned? true cs).map fun (n, rest) => (.number n, rest)
  | cs => (readUnsigned? false cs).map fun (n, rest) => (.number n, rest)

/-! ### Every token takes at least one character -/

theorem length_splitDigits {cs rest : List Char} {ds : List Nat} (h : splitDigits cs = (ds, rest)) :
    ds.length + rest.length = cs.length := by
  cases h
  rw [List.length_map, ← List.length_append, List.takeWhile_append_dropWhile]

theorem length_of_readFraction? {cs rest : List Char} {ds : List Nat}
    (h : readFraction? cs = some (ds, rest)) : rest.length ≤ cs.length := by
  unfold readFraction? at h
  split at h
  · split at h
    · cases h
    · next hs => cases h; have := length_splitDigits hs; simp only [List.length_cons]; omega
  · cases h; exact Nat.le_refl _

theorem length_of_readExponentDigits? {negative : Bool} {cs rest : List Char}
    {e? : Option (Bool × List Nat)} (h : readExponentDigits? negative cs = some (e?, rest)) :
    rest.length ≤ cs.length := by
  unfold readExponentDigits? at h
  split at h
  · cases h
  · next hs => cases h; have := length_splitDigits hs; omega

theorem length_of_readExponent? {cs rest : List Char} {e? : Option (Bool × List Nat)}
    (h : readExponent? cs = some (e?, rest)) : rest.length ≤ cs.length := by
  unfold readExponent? at h
  split at h
  case h_7 => cases h; exact Nat.le_refl _
  all_goals
    have := length_of_readExponentDigits? h
    simp only [List.length_cons]; omega

theorem length_of_readUnsigned? {negative : Bool} {cs rest : List Char} {n : Numeral}
    (h : readUnsigned? negative cs = some (n, rest)) : rest.length < cs.length := by
  unfold readUnsigned? at h
  split at h
  · cases h
  · cases h
  · next whole rest₁ h₀ _ hs =>
    simp only [Option.bind_eq_bind, Option.bind_eq_some_iff, Prod.exists, pure,
      Option.some.injEq, Prod.mk.injEq] at h
    obtain ⟨fraction, rest₂, hf, e?, rest₃, he, -, rfl⟩ := h
    -- There is at least one digit, and the parts behind it never add to the text.
    have h₁ := length_splitDigits hs
    have h₂ := length_of_readFraction? hf
    have h₃ := length_of_readExponent? he
    have : whole ≠ [] := h₀
    have := List.length_pos_iff.2 this
    omega

theorem length_of_readPieces? {cs rest : List Char} {pieces : List Piece}
    (h : readPieces? cs = some (pieces, rest)) : rest.length < cs.length := by
  fun_induction readPieces? cs generalizing pieces rest <;> simp_all <;> grind

theorem length_of_readToken? {cs rest : List Char} {t : Token}
    (h : readToken? cs = some (t, rest)) : rest.length < cs.length := by
  unfold readToken? at h
  split at h
  case h_10 =>
    obtain ⟨⟨pieces, rest'⟩, hp, he⟩ := Option.map_eq_some_iff.1 h
    cases he
    have := length_of_readPieces? hp
    simp only [List.length_cons]; omega
  case h_11 =>
    obtain ⟨⟨n, rest'⟩, hn, he⟩ := Option.map_eq_some_iff.1 h
    cases he
    have := length_of_readUnsigned? hn
    simp only [List.length_cons]; omega
  case h_12 =>
    obtain ⟨⟨n, rest'⟩, hn, he⟩ := Option.map_eq_some_iff.1 h
    cases he
    exact length_of_readUnsigned? hn
  all_goals
    cases h
    simp only [List.length_cons]; omega

/-- Cut a text into tokens. -/
def Token.scan : List Char → List Token
  | [] => []
  | c :: cs =>
    if isBlank c then scan cs
    else
      match _h : readToken? (c :: cs) with
      | some (t, rest) => t :: scan rest
      | none => [.stray]
termination_by cs => cs.length
decreasing_by
  · simp
  · exact length_of_readToken? _h

end TactilePad.Json
