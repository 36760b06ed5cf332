import TactilePad.Proofs.Json.Text

/-!
# Cutting a text at its tokens

* `scan_append`: two texts side by side are cut into the tokens of the one and those of the other.
* `exists_cut`: a text is taken apart at any brace, colon or comma among its tokens.

Both rest on how little a token depends on: its own text, and behind that no more than whether a
number goes on (`ReadsLocally`).  The parts of a number are put together by what the first character
behind each part cannot be.
-/

namespace TactilePad.Json

/-! ### Readers that do not look ahead -/

/-- What is read depends on the piece that is taken off the front, not on the text behind it: from
any place on, that may be replaced by a text that does not go on with a number. -/
def ReadsLocally {α : Type} (read : List Char → Option (α × List Char)) : Prop :=
  ∀ {cs rest : List Char} {a : α}, read cs = some (a, rest) →
    ∃ piece, cs = piece ++ rest ∧
      ∀ {kept old new : List Char}, rest = kept ++ old → EndsNumber new →
        read (piece ++ (kept ++ new)) = some (a, kept ++ new)

/-- What no first character is before the text behind is replaced, none is afterwards. -/
theorem head?_append_of_head? {P : Char → Prop} {kept old new : List Char}
    (hold : ∀ c ∈ (kept ++ old).head?, P c) (hnew : ∀ c ∈ new.head?, P c) :
    ∀ c ∈ (kept ++ new).head?, P c := by
  cases kept with
  | nil => exact hnew
  | cons c kept => exact hold

/-- Digits are split off in front of the first character that is none. -/
theorem exists_eq_of_splitDigits {cs rest : List Char} {ds : List Nat}
    (h : splitDigits cs = (ds, rest)) :
    ∃ piece, cs = piece ++ rest ∧ ds = piece.map digitValue ∧ (∀ c ∈ piece, isDigit c = true) ∧
      ∀ c ∈ rest.head?, isDigit c = false := by
  obtain ⟨rfl, rfl⟩ := Prod.mk.inj h
  refine ⟨cs.takeWhile isDigit, List.takeWhile_append_dropWhile.symm, rfl, ?_, ?_⟩
  · exact List.all_eq_true.1 List.all_takeWhile
  · intro c hc
    have hdrop := List.head?_dropWhile_not isDigit cs
    rw [Option.mem_def.1 hc] at hdrop
    simpa using hdrop

/-! ### Numbers -/

/-- A fraction is read by its digits, and the absence of one by what follows. -/
theorem readsLocally_readFraction? : ReadsLocally readFraction? := by
  intro cs rest ds h
  unfold readFraction? at h
  split at h
  · split at h
    · cases h
    · -- There is a point, and digits behind it.
      next ds' rest' hne hsplit =>
      obtain ⟨rfl, rfl⟩ := Prod.mk.inj (Option.some.inj h)
      obtain ⟨piece, rfl, rfl, hpiece, hrest⟩ := exists_eq_of_splitDigits hsplit
      refine ⟨'.' :: piece, rfl, ?_⟩
      rintro kept old new rfl hnew
      have hsplit' := splitDigits_append hpiece (head?_append_of_head? hrest hnew.not_isDigit)
      show readFraction? ('.' :: (piece ++ (kept ++ new))) = _
      rw [readFraction?, hsplit']
      split
      · next heq => exact absurd (Prod.mk.inj heq).1 hne
      · next heq => rw [(Prod.mk.inj heq).1, (Prod.mk.inj heq).2]
  · -- There is no point: none may stand at the head of what comes instead.
    next hpoint =>
    obtain ⟨rfl, rfl⟩ := Prod.mk.inj (Option.some.inj h)
    refine ⟨[], rfl, ?_⟩
    rintro kept old new rfl hnew
    have hold : ∀ c ∈ (kept ++ old).head?, c ≠ '.' := by
      rintro c hc rfl
      obtain ⟨cs, hcs⟩ := List.head?_eq_some_iff.1 hc
      exact hpoint cs hcs
    have hhead : ∀ c ∈ (kept ++ new).head?, c ≠ '.' :=
      head?_append_of_head? hold fun c hc => (hnew c hc).2.1
    exact readFraction?_of_head? hhead

/-- The digits of an exponent are read by themselves. -/
theorem readExponentDigits?_local {negative : Bool} {cs rest : List Char}
    {e? : Option (Bool × List Nat)} (h : readExponentDigits? negative cs = some (e?, rest)) :
    ∃ c piece, isDigit c = true ∧ cs = c :: piece ++ rest ∧
      ∀ {kept old new : List Char}, rest = kept ++ old → EndsNumber new →
        readExponentDigits? negative (c :: piece ++ (kept ++ new)) = some (e?, kept ++ new) := by
  unfold readExponentDigits? at h
  split at h
  · cases h
  · next ds rest' hne hsplit =>
    obtain ⟨rfl, rfl⟩ := Prod.mk.inj (Option.some.inj h)
    obtain ⟨piece, rfl, rfl, hpiece, hrest⟩ := exists_eq_of_splitDigits hsplit
    -- There is at least one digit.
    cases piece with
    | nil => exact absurd rfl hne
    | cons c piece =>
      refine ⟨c, piece, hpiece c List.mem_cons_self, rfl, ?_⟩
      rintro kept old new rfl hnew
      rw [readExponentDigits?,
        splitDigits_append hpiece (head?_append_of_head? hrest hnew.not_isDigit)]
      rfl

/-- An exponent need not have a sign. -/
theorem readExponent?_cons {letter c : Char} (hletter : letter = 'e' ∨ letter = 'E')
    (hc : isDigit c = true) (cs : List Char) :
    readExponent? (letter :: c :: cs) = readExponentDigits? false (c :: cs) := by
  have hplus : c ≠ '+' := by
    rintro rfl
    exact absurd hc (by decide)
  have hminus : c ≠ '-' := by
    rintro rfl
    exact absurd hc (by decide)
  rcases hletter with rfl | rfl <;> simp [readExponent?, hplus, hminus]

/-- An exponent is read by its letter, sign and digits, and the absence of one by what follows. -/
theorem readsLocally_readExponent? : ReadsLocally readExponent? := by
  intro cs rest e? h
  unfold readExponent? at h
  split at h
  -- A letter with a sign, and digits.
  case h_1 cs | h_2 cs | h_3 cs | h_4 cs =>
    obtain ⟨c, piece, -, rfl, hlocal⟩ := readExponentDigits?_local h
    exact ⟨_ :: _ :: c :: piece, rfl, hlocal⟩
  -- A letter, and the digits at once.
  case h_5 cs _ _ | h_6 cs _ _ =>
    obtain ⟨c, piece, hc, rfl, hlocal⟩ := readExponentDigits?_local h
    refine ⟨_ :: c :: piece, rfl, ?_⟩
    intro kept old new hrest hnew
    rw [← hlocal hrest hnew]
    exact readExponent?_cons (by simp) hc _
  -- No letter: none may stand at the head of what comes instead.
  case h_7 hsmall hcapital =>
    obtain ⟨rfl, rfl⟩ := Prod.mk.inj (Option.some.inj h)
    refine ⟨[], rfl, ?_⟩
    rintro kept old new rfl hnew
    have hold : ∀ c ∈ (kept ++ old).head?, c ≠ 'e' ∧ c ≠ 'E' := by
      intro c hc
      obtain ⟨cs, hcs⟩ := List.head?_eq_some_iff.1 hc
      constructor
      · rintro rfl
        exact hsmall cs hcs
      · rintro rfl
        exact hcapital cs hcs
    have hhead : ∀ c ∈ (kept ++ new).head?, c ≠ 'e' ∧ c ≠ 'E' :=
      head?_append_of_head? hold fun c hc => (hnew c hc).2.2
    exact readExponent?_of_head? hhead

/-- The whole digits end before a point or an exponent, since the text behind them does not start
with a digit. -/
theorem readsLocally_readUnsigned? (negative : Bool) : ReadsLocally (readUnsigned? negative) := by
  intro cs rest n h
  unfold readUnsigned? at h
  split at h
  · cases h
  · cases h
  · next whole rest₁ hne hzero hsplit =>
    simp only [Option.bind_eq_bind, Option.bind_eq_some_iff, Prod.exists, pure,
      Option.some.injEq, Prod.mk.injEq] at h
    obtain ⟨fraction, rest₂, hfraction, e?, rest₃, hexponent, rfl, rfl⟩ := h
    obtain ⟨piece₁, rfl, rfl, hpiece, hrest⟩ := exists_eq_of_splitDigits hsplit
    obtain ⟨piece₂, rfl, hlocal₂⟩ := readsLocally_readFraction? hfraction
    obtain ⟨piece₃, rfl, hlocal₃⟩ := readsLocally_readExponent? hexponent
    refine ⟨piece₁ ++ (piece₂ ++ piece₃), by simp only [List.append_assoc], ?_⟩
    rintro kept old new rfl hnew
    -- Each part is read as before, since what it ends at is there still or ends the number.
    have hsplit' : splitDigits (piece₁ ++ (piece₂ ++ (piece₃ ++ (kept ++ new))))
        = (piece₁.map digitValue, piece₂ ++ (piece₃ ++ (kept ++ new))) := by
      refine splitDigits_append hpiece ?_
      simp only [← List.append_assoc] at hrest ⊢
      exact head?_append_of_head? hrest hnew.not_isDigit
    have hfraction' : readFraction? (piece₂ ++ (piece₃ ++ (kept ++ new)))
        = some (fraction, piece₃ ++ (kept ++ new)) := by
      rw [← List.append_assoc piece₃]
      exact hlocal₂ (List.append_assoc piece₃ kept old).symm hnew
    have hexponent' : readExponent? (piece₃ ++ (kept ++ new)) = some (e?, kept ++ new) :=
      hlocal₃ rfl hnew
    simp only [List.append_assoc]
    unfold readUnsigned?
    rw [hsplit']
    split
    · next heq => exact absurd (Prod.mk.inj heq).1 hne
    · next heq => exact absurd (Prod.mk.inj heq).1 (hzero _ _)
    · next heq =>
      obtain ⟨rfl, rfl⟩ := Prod.mk.inj heq
      simp only [hfraction', hexponent', Option.bind_eq_bind, Option.bind_some, pure]

/-! ### Strings -/

/-- A string ends at its closing quote, whatever stands behind. -/
theorem exists_eq_of_readPieces? {cs rest : List Char} {pieces : List Piece}
    (h : readPieces? cs = some (pieces, rest)) :
    ∃ piece, cs = piece ++ rest ∧ ∀ rest', readPieces? (piece ++ rest') = some (pieces, rest') := by
  fun_induction readPieces? cs generalizing pieces rest with
  | case1 cs =>
    obtain ⟨rfl, rfl⟩ := Prod.mk.inj (Option.some.inj h)
    refine ⟨['"'], rfl, ?_⟩
    intro rest'
    rw [List.singleton_append, readPieces?]
  | case2 a b c d cs code pieces' rest'' hread hcode ih =>
    obtain ⟨rfl, rfl⟩ := Prod.mk.inj (Option.some.inj h)
    obtain ⟨piece, rfl, hpiece⟩ := ih hread
    refine ⟨'\\' :: 'u' :: a :: b :: c :: d :: piece, rfl, ?_⟩
    intro rest'
    simp only [List.cons_append]
    rw [readPieces?_code hcode, hpiece]
    rfl
  | case4 letter cs _ c pieces' rest'' hread hletter ih =>
    obtain ⟨rfl, rfl⟩ := Prod.mk.inj (Option.some.inj h)
    obtain ⟨piece, rfl, hpiece⟩ := ih hread
    refine ⟨'\\' :: letter :: piece, rfl, ?_⟩
    intro rest'
    simp only [List.cons_append]
    rw [readPieces?_letter hletter, hpiece]
    rfl
  | case7 c cs hquote _ hslash hc pieces' rest'' hread ih =>
    obtain ⟨rfl, rfl⟩ := Prod.mk.inj (Option.some.inj h)
    obtain ⟨piece, rfl, hpiece⟩ := ih hread
    have hslash' : c ≠ '\\' := by
      intro heq
      -- A backslash at the end of the text is no piece.
      cases hcs : piece ++ rest'' with
      | nil => rw [hcs] at hread; cases hread
      | cons c' cs' => exact hslash c' cs' heq hcs
    refine ⟨c :: piece, rfl, ?_⟩
    intro rest'
    simp only [List.cons_append]
    rw [readPieces?_char hquote hslash' (Nat.le_of_not_lt hc), hpiece]
    rfl
  -- In the other cases no piece can be read.
  | case3 | case5 | case6 | case8 | case9 => cases h

/-! ### Tokens -/

/-- A number without a sign begins with a digit. -/
theorem isDigit_of_readUnsigned? {negative : Bool} {c : Char} {cs rest : List Char} {n : Numeral}
    (h : readUnsigned? negative (c :: cs) = some (n, rest)) : isDigit c = true := by
  cases hc : isDigit c with
  | true => rfl
  | false =>
    have hsplit : splitDigits (c :: cs) = ([], c :: cs) := by simp [splitDigits, hc]
    rw [readUnsigned?, hsplit] at h
    cases h

/-- A token is read by its own characters: a string ends at its quote, and a number ends where the
text ends a number, while marks and words end by themselves. -/
theorem readsLocally_readToken? : ReadsLocally readToken? := by
  intro cs rest t h
  unfold readToken? at h
  split at h
  -- A string: what comes behind its quote does not matter.
  case h_10 cs =>
    obtain ⟨⟨pieces, rest'⟩, hread, heq⟩ := Option.map_eq_some_iff.1 h
    obtain ⟨rfl, rfl⟩ := Prod.mk.inj heq
    obtain ⟨piece, rfl, hpiece⟩ := exists_eq_of_readPieces? hread
    refine ⟨'"' :: piece, rfl, ?_⟩
    intro kept old new _ _
    show (readPieces? (piece ++ (kept ++ new))).map _ = _
    rw [hpiece]
    rfl
  -- A number with a sign.
  case h_11 cs =>
    obtain ⟨⟨n, rest'⟩, hread, heq⟩ := Option.map_eq_some_iff.1 h
    obtain ⟨rfl, rfl⟩ := Prod.mk.inj heq
    obtain ⟨piece, rfl, hpiece⟩ := readsLocally_readUnsigned? true hread
    refine ⟨'-' :: piece, rfl, ?_⟩
    intro kept old new hrest hnew
    show (readUnsigned? true (piece ++ (kept ++ new))).map _ = _
    rw [hpiece hrest hnew]
    rfl
  -- A number without one: it has a first digit, by which it is told to be a number.
  case h_12 cs _ _ _ _ _ _ _ _ _ _ _ =>
    obtain ⟨⟨n, rest'⟩, hread, heq⟩ := Option.map_eq_some_iff.1 h
    obtain ⟨rfl, rfl⟩ := Prod.mk.inj heq
    have hlength := length_of_readUnsigned? hread
    obtain ⟨piece, rfl, hpiece⟩ := readsLocally_readUnsigned? false hread
    cases piece with
    | nil => exact absurd hlength (Nat.lt_irrefl _)
    | cons c piece =>
      refine ⟨c :: piece, rfl, ?_⟩
      intro kept old new hrest hnew
      have hread' := hpiece hrest hnew
      rw [List.cons_append] at hread' ⊢
      rw [readToken?_of_isDigit (isDigit_of_readUnsigned? hread), hread']
      rfl
  -- The marks have one character, and the words four or five.
  all_goals
    obtain ⟨rfl, rfl⟩ := Prod.mk.inj (Option.some.inj h)
    first
      | exact ⟨[_], rfl, fun _ _ => rfl⟩
      | exact ⟨[_, _, _, _], rfl, fun _ _ => rfl⟩
      | exact ⟨[_, _, _, _, _], rfl, fun _ _ => rfl⟩

/-- The piece of a token starts with the character that the token was read at. -/
theorem exists_piece_of_readToken? {c : Char} {cs rest : List Char} {t : Token}
    (h : readToken? (c :: cs) = some (t, rest)) :
    ∃ piece, cs = piece ++ rest ∧
      ∀ {kept old new : List Char}, rest = kept ++ old → EndsNumber new →
        readToken? (c :: (piece ++ (kept ++ new))) = some (t, kept ++ new) := by
  have hlength := length_of_readToken? h
  obtain ⟨piece, hpiece, hlocal⟩ := readsLocally_readToken? h
  cases piece with
  | nil =>
    rw [hpiece] at hlength
    exact absurd hlength (Nat.lt_irrefl _)
  | cons c' piece =>
    obtain ⟨rfl, rfl⟩ := List.cons.inj hpiece
    exact ⟨piece, rfl, hlocal⟩

/-! ### Blanks -/

theorem scan_blank {c : Char} (hc : isBlank c = true) (cs : List Char) :
    Token.scan (c :: cs) = Token.scan cs := by
  rw [Token.scan, if_pos hc]

theorem scan_blanks_append {blanks : List Char} (h : ∀ c ∈ blanks, isBlank c = true)
    (cs : List Char) : Token.scan (blanks ++ cs) = Token.scan cs := by
  induction blanks with
  | nil => rfl
  | cons c blanks ih =>
    rw [List.forall_mem_cons] at h
    rw [List.cons_append, scan_blank h.1, ih h.2]

/-- A text without tokens is blank. -/
theorem isBlank_of_scan {cs : List Char} (h : Token.scan cs = []) :
    ∀ c ∈ cs, isBlank c = true := by
  fun_induction Token.scan cs with
  | case1 => simp
  | case2 c cs hc ih => exact List.forall_mem_cons.2 ⟨hc, ih h⟩
  | case3 | case4 => cases h

/-! ### Texts side by side -/

/-- Two texts side by side are cut one after the other, unless the second goes on with a number. -/
theorem scan_append {cs cs' : List Char} (h : .stray ∉ Token.scan cs) (hcs' : EndsNumber cs') :
    Token.scan (cs ++ cs') = Token.scan cs ++ Token.scan cs' := by
  fun_induction Token.scan cs with
  | case1 => rfl
  | case2 c cs hc ih => rw [List.cons_append, scan_blank hc, ih h]
  | case3 c cs hc t rest hread ih =>
    -- The token is read as before, and the second text comes behind what was left.
    obtain ⟨piece, rfl, hlocal⟩ := exists_piece_of_readToken? hread
    have hread' : readToken? (c :: (piece ++ (rest ++ cs'))) = some (t, rest ++ cs') :=
      hlocal (List.append_nil rest).symm hcs'
    rw [List.cons_append, List.append_assoc,
      scan_of_readToken? (Bool.eq_false_iff.2 hc) hread', ih (List.not_mem_of_not_mem_cons h),
      List.cons_append]
  | case4 => exact absurd List.mem_cons_self h

/-! ### Cutting at a mark -/

/-- The character of a token that is a mark by itself. -/
def Token.mark? : Token → Option Char
  | .openBrace => some '\x7b'
  | .closeBrace => some '\x7d'
  | .openBracket => some '['
  | .closeBracket => some ']'
  | .colon => some ':'
  | .comma => some ','
  | _ => none

/-- A mark is a token of one character. -/
theorem eq_of_readToken?_mark {t : Token} {mark c : Char} {cs rest : List Char}
    (hmark : t.mark? = some mark) (h : readToken? (c :: cs) = some (t, rest)) :
    c = mark ∧ cs = rest := by
  unfold readToken? at h
  split at h
  case h_1 | h_2 | h_3 | h_4 | h_5 | h_6 =>
    next heq =>
      obtain ⟨rfl, rfl⟩ := List.cons.inj heq
      obtain ⟨rfl, rfl⟩ := Prod.mk.inj (Option.some.inj h)
      exact ⟨Option.some.inj hmark, rfl⟩
  -- Strings and numbers are not marks, and neither are words.
  case h_10 | h_11 | h_12 =>
    obtain ⟨_, -, heq⟩ := Option.map_eq_some_iff.1 h
    cases heq
    cases hmark
  all_goals
    cases h
    cases hmark

/-- A text is taken apart at a mark among its tokens; the blanks before the mark go with the
front. -/
theorem exists_cut {t : Token} {mark : Char} (hmark : t.mark? = some mark) (ts : List Token)
    {ts' : List Token} {cs : List Char} (h : Token.scan cs = ts ++ t :: ts') :
    ∃ front back, cs = front ++ mark :: back ∧ Token.scan front = ts ∧ Token.scan back = ts' := by
  fun_induction Token.scan cs generalizing ts with
  | case1 => simp at h
  | case2 c cs hc ih =>
    obtain ⟨front, back, rfl, hfront, hback⟩ := ih ts h
    exact ⟨c :: front, back, rfl, (scan_blank hc front).trans hfront, hback⟩
  | case3 c cs hc t' rest hread ih =>
    cases ts with
    | nil =>
      obtain ⟨rfl, hback⟩ := List.cons.inj h
      obtain ⟨rfl, rfl⟩ := eq_of_readToken?_mark hmark hread
      exact ⟨[], cs, rfl, by rw [Token.scan], hback⟩
    | cons t'' ts =>
      obtain ⟨rfl, hrest⟩ := List.cons.inj h
      obtain ⟨front, back, rfl, hfront, hback⟩ := ih ts hrest
      -- The token is read as before when the text behind it ends at the mark.
      obtain ⟨piece, rfl, hlocal⟩ := exists_piece_of_readToken? hread
      have hread' : readToken? (c :: (piece ++ front)) = some (t', front) := by
        simpa using hlocal rfl endsNumber_nil
      refine ⟨c :: (piece ++ front), back, by simp, ?_, hback⟩
      rw [scan_of_readToken? (Bool.eq_false_iff.2 hc) hread', hfront]
  -- A stray character ends the tokens, so no mark comes behind it.
  | case4 =>
    cases ts with
    | nil =>
      obtain ⟨rfl, -⟩ := List.cons.inj h
      cases hmark
    | cons t'' ts => simp at h

end TactilePad.Json
