import TactilePad.Json.Token
import TactilePad.Json.Writer

/-!
# From tree to tokens

* `scan_chars`: the text of a plain tree is cut into the tokens of the tree (`Json.tokens`).

A plain tree is one that a writer has in hand: closed containers, strings with a text, and integers
for numbers.  A string comes back because every character is written so that it reads as a piece of
its own (`readPieces?_escapeChar`), and an integer because its digits end where the text goes on
with anything but a number (`EndsNumber`).
-/

namespace TactilePad.Json

/-! ### Digits and integers -/

theorem isDigit_digitChar {d : Nat} (hd : d < 10) : isDigit (Text.digitChar d) = true := by
  have hall : ∀ d, d < 10 → isDigit (Text.digitChar d) = true := by decide
  exact hall d hd

theorem digitValue_digitChar {d : Nat} (hd : d < 10) : digitValue (Text.digitChar d) = d := by
  have hall : ∀ d, d < 10 → digitValue (Text.digitChar d) = d := by decide
  exact hall d hd

/-- The text does not go on with a number. -/
def EndsNumber (cs : List Char) : Prop :=
  ∀ c ∈ cs.head?, isDigit c = false ∧ c ≠ '.' ∧ c ≠ 'e' ∧ c ≠ 'E'

theorem endsNumber_nil : EndsNumber [] := by
  simp [EndsNumber]

theorem EndsNumber.not_isDigit {cs : List Char} (h : EndsNumber cs) :
    ∀ c ∈ cs.head?, isDigit c = false :=
  fun c hc => (h c hc).1

/-- Digits are split off up to the first character that is none. -/
theorem splitDigits_append {piece cs : List Char} (hpiece : ∀ c ∈ piece, isDigit c = true)
    (hcs : ∀ c ∈ cs.head?, isDigit c = false) :
    splitDigits (piece ++ cs) = (piece.map digitValue, cs) := by
  have htake : cs.takeWhile isDigit = [] ∧ cs.dropWhile isDigit = cs := by
    cases cs with
    | nil => exact ⟨rfl, rfl⟩
    | cons c cs => simp [hcs c rfl]
  rw [splitDigits, List.takeWhile_append_of_pos hpiece, List.dropWhile_append_of_pos hpiece,
    htake.1, htake.2, List.append_nil]

/-- Written digits are split off up to where the number ends. -/
theorem splitDigits_digits {ds : List Nat} (hds : ∀ d ∈ ds, d < 10) {cs : List Char}
    (hcs : EndsNumber cs) : splitDigits (ds.map Text.digitChar ++ cs) = (ds, cs) := by
  have hdigits : ∀ c ∈ ds.map Text.digitChar, isDigit c = true := by
    intro c hc
    obtain ⟨d, hd, rfl⟩ := List.mem_map.mp hc
    exact isDigit_digitChar (hds d hd)
  have hvalues : (ds.map Text.digitChar).map digitValue = ds := by
    have hcongr : ∀ d ∈ ds, (digitValue ∘ Text.digitChar) d = id d := by
      intro d hd
      exact digitValue_digitChar (hds d hd)
    rw [List.map_map, List.map_congr_left hcongr, List.map_id]
  rw [splitDigits_append hdigits hcs.not_isDigit, hvalues]

/-- An integer as it is written: digits without a needless zero at the front, and neither a fraction
nor an exponent. -/
structure Numeral.IsInteger (n : Numeral) : Prop where
  digits : ∀ d ∈ n.whole, d < 10
  nonempty : n.whole ≠ []
  leading : ∀ d ds, n.whole ≠ 0 :: d :: ds
  fraction : n.fraction = []
  exponent : n.exponent? = none

/-- A natural number is written as an integer. -/
theorem Numeral.isInteger_ofNat (n : Nat) : (ofNat n).IsInteger where
  digits _ := Text.lt_ten_of_mem_digits
  nonempty := Text.digits_ne_nil n
  leading d ds h := by
    have hhead : (Text.digits n).head? = some 0 := by
      show (ofNat n).whole.head? = some 0
      rw [h]
      rfl
    by_cases hn : n = 0
    · -- Zero has one digit only.
      subst hn
      have hzero : Text.digits 0 = [0] := by
        rw [Text.digits]
        rfl
      exact List.cons_ne_nil d ds (List.cons.inj (hzero.symm.trans h)).2.symm
    · exact Text.head?_digits_ne_zero hn hhead
  fraction := rfl
  exponent := rfl

/-- An integer is given by its sign and its digits. -/
theorem Numeral.IsInteger.eq {n : Numeral} (h : n.IsInteger) :
    n = { negative := n.negative, whole := n.whole } := by
  obtain ⟨negative, whole, fraction, exponent?⟩ := n
  obtain ⟨-, -, -, rfl, rfl⟩ := h
  rfl

/-- Without a point there is no fraction. -/
theorem readFraction?_of_head? {cs : List Char} (h : ∀ c ∈ cs.head?, c ≠ '.') :
    readFraction? cs = some ([], cs) := by
  unfold readFraction?
  split
  · exact absurd rfl (h '.' rfl)
  · rfl

/-- Without its letter there is no exponent. -/
theorem readExponent?_of_head? {cs : List Char} (h : ∀ c ∈ cs.head?, c ≠ 'e' ∧ c ≠ 'E') :
    readExponent? cs = some (none, cs) := by
  unfold readExponent?
  split
  case h_7 => rfl
  all_goals
    first
      | exact absurd rfl (h 'e' rfl).1
      | exact absurd rfl (h 'E' rfl).2

/-- An integer is read back, up to its sign. -/
theorem readUnsigned?_digits {n : Numeral} (h : n.IsInteger) {cs : List Char}
    (hcs : EndsNumber cs) :
    readUnsigned? n.negative (n.whole.map Text.digitChar ++ cs) = some (n, cs) := by
  have hfraction := readFraction?_of_head? fun c hc => (hcs c hc).2.1
  have hexponent := readExponent?_of_head? fun c hc => (hcs c hc).2.2
  unfold readUnsigned?
  rw [splitDigits_digits h.digits hcs]
  split
  · next heq => exact absurd (Prod.mk.inj heq).1 h.nonempty
  · next heq => exact absurd (Prod.mk.inj heq).1 (h.leading _ _)
  · next heq =>
    obtain ⟨rfl, rfl⟩ := Prod.mk.inj heq
    simp only [hfraction, hexponent, Option.bind_eq_bind, Option.bind_some, pure]
    exact congrArg (fun n => some (n, cs)) h.eq.symm

/-! ### One token -/

/-- A token at the front of the text is cut off. -/
theorem scan_of_readToken? {c : Char} {cs rest : List Char} {t : Token} (hc : isBlank c = false)
    (h : readToken? (c :: cs) = some (t, rest)) : Token.scan (c :: cs) = t :: Token.scan rest := by
  rw [Token.scan, if_neg (by simp [hc])]
  split
  · next heq =>
    obtain ⟨rfl, rfl⟩ := Prod.mk.inj (Option.some.inj (heq.symm.trans h))
    rfl
  · next heq => cases heq.symm.trans h

/-- No token but a number begins with a digit. -/
theorem readToken?_of_isDigit {c : Char} (hc : isDigit c = true) (cs : List Char) :
    readToken? (c :: cs)
      = (readUnsigned? false (c :: cs)).map fun (n, rest) => (.number n, rest) := by
  unfold readToken?
  split
  case h_12 => rfl
  all_goals
    next heq =>
      obtain ⟨rfl, -⟩ := List.cons.inj heq
      exact absurd hc (by decide)

theorem not_isBlank_of_isDigit {c : Char} (hc : isDigit c = true) : isBlank c = false := by
  simp only [isBlank, Bool.or_eq_false_iff, decide_eq_false_iff_not]
  refine ⟨⟨⟨?_, ?_⟩, ?_⟩, ?_⟩ <;> rintro rfl <;> exact absurd hc (by decide)

/-- An integer is one token. -/
theorem scan_integer {n : Numeral} (h : n.IsInteger) {cs : List Char} (hcs : EndsNumber cs) :
    Token.scan (n.chars ++ cs) = .number n :: Token.scan cs := by
  have hread := readUnsigned?_digits h hcs
  have hchars : n.chars = (if n.negative then ['-'] else []) ++ n.whole.map Text.digitChar := by
    simp [Numeral.chars, h.fraction, h.exponent]
  rw [hchars]
  -- Only the sign is looked at here; the digits behind it are read alike.
  cases hnegative : n.negative with
  | true =>
    rw [hnegative] at hread
    refine scan_of_readToken? (by decide) ?_
    show (readUnsigned? true _).map _ = _
    simp [hread]
  | false =>
    rw [hnegative] at hread
    obtain ⟨d, ds, hwhole⟩ := List.exists_cons_of_ne_nil h.nonempty
    have hd : isDigit (Text.digitChar d) = true := by
      refine isDigit_digitChar (h.digits d ?_)
      simp [hwhole]
    rw [hwhole] at hread
    simp only [Bool.false_eq_true, if_false, List.nil_append, hwhole, List.map_cons,
      List.cons_append] at hread ⊢
    refine scan_of_readToken? (not_isBlank_of_isDigit hd) ?_
    rw [readToken?_of_isDigit hd, hread]
    rfl

/-! ### Strings -/

/-- A piece that stands for a character by itself: the character, or its code if that is of a
control character. -/
def Piece.Spells (piece : Piece) (c : Char) : Prop :=
  piece = .char c ∨ piece = .unit c.toNat ∧ c.toNat < 0x20

/-- A control character is spelled by two hexadecimal digits. -/
theorem hexCode?_hexDigit : ∀ n, n < 0x20 →
    hexCode? '0' '0' (Text.hexDigit (n / 16)) (Text.hexDigit (n % 16)) = some n := by
  decide

/-- The three ways of writing a character: by the letter of its escape, by its code, or as it is. -/
theorem escapeChar_cases (c : Char) :
    (∃ letter, escapedChar? letter = some c ∧ escapeChar c = ['\\', letter]) ∨
    (c.toNat < 0x20 ∧ escapeChar c
      = ['\\', 'u', '0', '0', Text.hexDigit (c.toNat / 16), Text.hexDigit (c.toNat % 16)]) ∨
    (c ≠ '"' ∧ c ≠ '\\' ∧ 0x20 ≤ c.toNat ∧ escapeChar c = [c]) := by
  unfold escapeChar
  -- Seven characters have a letter.
  iterate 7
    split
    · next h => exact .inl ⟨_, by rw [h]; rfl, rfl⟩
  split
  · next hc => exact .inr (.inl ⟨hc, rfl⟩)
  · next hquote hslash _ _ _ _ _ hc => exact .inr (.inr ⟨hquote, hslash, Nat.le_of_not_lt hc, rfl⟩)

/-- The three ways of reading a piece: an escape by a letter, an escape by a code, or a character as
it is. -/
theorem readPieces?_letter {letter c : Char} (h : escapedChar? letter = some c) (cs : List Char) :
    readPieces? ('\\' :: letter :: cs)
      = (readPieces? cs).map fun (pieces, rest) => (.char c :: pieces, rest) := by
  have hu : letter ≠ 'u' := by
    rintro rfl
    cases h
  rw [readPieces?]
  · simp only [h]
    cases readPieces? cs <;> rfl
  · intro a b c d rest hletter _
    exact hu hletter

/-- A code in hexadecimal digits is one piece. -/
theorem readPieces?_code {a b c d : Char} {code : Nat} (h : hexCode? a b c d = some code)
    (cs : List Char) :
    readPieces? ('\\' :: 'u' :: a :: b :: c :: d :: cs)
      = (readPieces? cs).map fun (pieces, rest) => (.unit code :: pieces, rest) := by
  rw [readPieces?, h]
  cases readPieces? cs <;> rfl

theorem readPieces?_char {c : Char} (hquote : c ≠ '"') (hslash : c ≠ '\\') (hc : 0x20 ≤ c.toNat)
    (cs : List Char) :
    readPieces? (c :: cs)
      = (readPieces? cs).map fun (pieces, rest) => (.char c :: pieces, rest) := by
  rw [readPieces?]
  · rw [if_neg (by omega)]
    cases readPieces? cs <;> rfl
  · exact hquote
  · intro _ _ _ _ _ h _
    exact hslash h
  · intro _ _ h _
    exact hslash h

/-- A written character is read as one piece that spells it. -/
theorem readPieces?_escapeChar (c : Char) (cs : List Char) :
    ∃ piece : Piece, piece.Spells c ∧
      readPieces? (escapeChar c ++ cs)
        = (readPieces? cs).map fun (pieces, rest) => (piece :: pieces, rest) := by
  rcases escapeChar_cases c with
    ⟨letter, hletter, hchars⟩ | ⟨hc, hchars⟩ | ⟨hquote, hslash, hc, hchars⟩
  · refine ⟨.char c, .inl rfl, ?_⟩
    rw [hchars]
    exact readPieces?_letter hletter cs
  · refine ⟨.unit c.toNat, .inr ⟨rfl, hc⟩, ?_⟩
    rw [hchars]
    exact readPieces?_code (hexCode?_hexDigit _ hc) cs
  · refine ⟨.char c, .inl rfl, ?_⟩
    rw [hchars]
    exact readPieces?_char hquote hslash hc cs

/-- A code below the surrogates stands for its character. -/
theorem joinPieces?_unit {code : Nat} (h : code < 0xD800) (pieces : List Piece) :
    joinPieces? (.unit code :: pieces) = (joinPieces? pieces).map (Char.ofNat code :: ·) := by
  have hleading : isLeading code = false := by
    simp [isLeading]
    omega
  have htrailing : isTrailing code = false := by
    simp [isTrailing]
    omega
  cases pieces with
  | nil => simp [joinPieces?, hleading, htrailing]
  | cons piece pieces => cases piece <;> simp [joinPieces?, hleading, htrailing]

/-- A piece that spells a character adds it in front. -/
theorem joinPieces?_cons {piece : Piece} {c : Char} (h : piece.Spells c) (pieces : List Piece) :
    joinPieces? (piece :: pieces) = (joinPieces? pieces).map (c :: ·) := by
  rcases h with rfl | ⟨rfl, hc⟩
  · rfl
  · rw [joinPieces?_unit (by omega), Char.ofNat_toNat]

/-- The characters of a string come back. -/
theorem readPieces?_string (s cs : List Char) :
    ∃ pieces, readPieces? (s.flatMap escapeChar ++ '"' :: cs) = some (pieces, cs) ∧
      joinPieces? pieces = some s := by
  induction s with
  | nil =>
    refine ⟨[], ?_, rfl⟩
    rw [List.flatMap_nil, List.nil_append, readPieces?]
  | cons c s ih =>
    obtain ⟨pieces, hread, hjoin⟩ := ih
    obtain ⟨piece, hspells, hpiece⟩ := readPieces?_escapeChar c (s.flatMap escapeChar ++ '"' :: cs)
    refine ⟨piece :: pieces, ?_, ?_⟩
    · rw [List.flatMap_cons, List.append_assoc, hpiece, hread]
      rfl
    · rw [joinPieces?_cons hspells, hjoin]
      rfl

/-- A string is one token. -/
theorem scan_string (s : String) (cs : List Char) :
    Token.scan (stringChars s ++ cs) = .string (some s) :: Token.scan cs := by
  obtain ⟨pieces, hread, hjoin⟩ := readPieces?_string s.toList cs
  have hchars : stringChars s ++ cs = '"' :: (s.toList.flatMap escapeChar ++ '"' :: cs) := by
    simp [stringChars]
  rw [hchars]
  refine scan_of_readToken? (by decide) ?_
  simp [readToken?, hread, hjoin]

/-! ### Trees -/

mutual

/-- A tree that has a text: closed, with a text for every string and integers for numbers. -/
def IsPlain : Json → Prop
  | .null | .bool _ => True
  | .number n => n.IsInteger
  | .string text? => text?.isSome
  | .array items closed => closed ∧ ArePlain items
  | .object members closed => closed ∧ HavePlainValues members
  | .missing => False

def ArePlain : List Json → Prop
  | [] => True
  | v :: items => v.IsPlain ∧ ArePlain items

/-- Every member has a name with a text and a plain value. -/
def HavePlainValues : List (Option String × Json) → Prop
  | [] => True
  | (name?, v) :: members => name?.isSome ∧ v.IsPlain ∧ HavePlainValues members

end

mutual

/-- The tokens of a tree, in the order of its text. -/
def tokens : Json → List Token
  | .null => [.null]
  | .bool b => [.bool b]
  | .number n => [.number n]
  | .string text? => [.string text?]
  | .array items _ => .openBracket :: itemTokens items
  | .object members _ => .openBrace :: memberTokens members
  | .missing => []

/-- The tokens of items and the closing bracket. -/
def itemTokens : List Json → List Token
  | [] => [.closeBracket]
  | [v] => v.tokens ++ [.closeBracket]
  | v :: items => v.tokens ++ .comma :: itemTokens items

/-- The tokens of members and the closing brace. -/
def memberTokens : List (Option String × Json) → List Token
  | [] => [.closeBrace]
  | [(name?, v)] => .string name? :: .colon :: v.tokens ++ [.closeBrace]
  | (name?, v) :: members => .string name? :: .colon :: v.tokens ++ .comma :: memberTokens members

end

theorem scan_openBracket (cs : List Char) :
    Token.scan ('[' :: cs) = .openBracket :: Token.scan cs :=
  scan_of_readToken? rfl rfl

theorem scan_closeBracket (cs : List Char) :
    Token.scan (']' :: cs) = .closeBracket :: Token.scan cs :=
  scan_of_readToken? rfl rfl

theorem scan_openBrace (cs : List Char) :
    Token.scan ('\x7b' :: cs) = .openBrace :: Token.scan cs :=
  scan_of_readToken? rfl rfl

theorem scan_closeBrace (cs : List Char) :
    Token.scan ('\x7d' :: cs) = .closeBrace :: Token.scan cs :=
  scan_of_readToken? rfl rfl

theorem scan_comma (cs : List Char) : Token.scan (',' :: cs) = .comma :: Token.scan cs :=
  scan_of_readToken? rfl rfl

theorem scan_colon (cs : List Char) : Token.scan (':' :: cs) = .colon :: Token.scan cs :=
  scan_of_readToken? rfl rfl

/-- Punctuation ends a number. -/
theorem endsNumber_of_punctuation {c : Char} (hc : c ∈ [':', ',', ']', '\x7d']) (cs : List Char) :
    EndsNumber (c :: cs) := by
  intro c' hc'
  obtain rfl : c = c' := Option.some.inj hc'
  simp only [List.mem_cons, List.not_mem_nil, or_false] at hc
  rcases hc with rfl | rfl | rfl | rfl <;> decide

mutual

/-- The text of a plain tree is cut into the tokens of the tree. -/
theorem scan_chars (v : Json) (h : v.IsPlain) {cs : List Char} (hcs : EndsNumber cs) :
    Token.scan (v.chars ++ cs) = v.tokens ++ Token.scan cs := by
  match v, h with
  | .null, _ => exact scan_of_readToken? rfl rfl
  | .bool true, _ => exact scan_of_readToken? rfl rfl
  | .bool false, _ => exact scan_of_readToken? rfl rfl
  | .number n, h => exact scan_integer h hcs
  | .string (some s), _ => exact scan_string s cs
  | .array items _, h =>
    show Token.scan ('[' :: (itemChars items ++ cs)) = _
    rw [scan_openBracket, scan_itemChars items h.2 cs]
    rfl
  | .object members _, h =>
    show Token.scan ('\x7b' :: (memberChars members ++ cs)) = _
    rw [scan_openBrace, scan_memberChars members h.2 cs]
    rfl

/-- The items of an array are scanned one by one, up to its bracket. -/
theorem scan_itemChars (items : List Json) (h : ArePlain items) (cs : List Char) :
    Token.scan (itemChars items ++ cs) = itemTokens items ++ Token.scan cs := by
  match items, h with
  | [], _ => exact scan_closeBracket cs
  | [v], h =>
    have hend : EndsNumber (']' :: cs) := endsNumber_of_punctuation (by decide) cs
    show Token.scan (v.chars ++ [']'] ++ cs) = v.tokens ++ [.closeBracket] ++ _
    simp only [List.append_assoc, List.cons_append, List.nil_append]
    rw [scan_chars v h.1 hend, scan_closeBracket]
  | v :: w :: items, h =>
    have hend : EndsNumber (',' :: (itemChars (w :: items) ++ cs)) :=
      endsNumber_of_punctuation (by decide) _
    show Token.scan (v.chars ++ ',' :: itemChars (w :: items) ++ cs)
      = v.tokens ++ .comma :: itemTokens (w :: items) ++ _
    simp only [List.append_assoc, List.cons_append]
    rw [scan_chars v h.1 hend, scan_comma, scan_itemChars (w :: items) h.2]

/-- The members of an object are scanned one by one, up to its brace. -/
theorem scan_memberChars (members : List (Option String × Json)) (h : HavePlainValues members)
    (cs : List Char) :
    Token.scan (memberChars members ++ cs) = memberTokens members ++ Token.scan cs := by
  match members, h with
  | [], _ => exact scan_closeBrace cs
  | [(some name, v)], h =>
    -- A value may be a number, so what stands behind it has to end one.
    have hend : EndsNumber ('\x7d' :: cs) := endsNumber_of_punctuation (by decide) cs
    show Token.scan (stringChars name ++ ':' :: v.chars ++ ['\x7d'] ++ cs)
      = .string (some name) :: .colon :: v.tokens ++ [.closeBrace] ++ _
    simp only [List.append_assoc, List.cons_append, List.nil_append]
    rw [scan_string, scan_colon, scan_chars v h.2.1 hend, scan_closeBrace]
  | (some name, v) :: w :: members, h =>
    have hend : EndsNumber (',' :: (memberChars (w :: members) ++ cs)) :=
      endsNumber_of_punctuation (by decide) _
    show Token.scan (stringChars name ++ ':' :: v.chars ++ ',' :: memberChars (w :: members) ++ cs)
      = .string (some name) :: .colon :: v.tokens ++ .comma :: memberTokens (w :: members) ++ _
    simp only [List.append_assoc, List.cons_append]
    rw [scan_string, scan_colon, scan_chars v h.2.1 hend, scan_comma,
      scan_memberChars (w :: members) h.2.2]

end

end TactilePad.Json
