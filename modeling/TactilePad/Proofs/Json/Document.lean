import TactilePad.Json.Document
import TactilePad.Proofs.Json.Text

/-!
# From tokens to tree

* `Document.ofTokens_eq_iff`: tokens make a complete text if and only if they are those of a whole
  tree.
* `Document.ofChars_chars`: the text of a plain tree is that tree and nothing else.

The reading of a value ends, with the value in hand, where the containers around it are those that
were open when it began (`readTokens_tokens`).  Items and members are read with those before them
on the stack, so the statements for them say how the ones before and the ones read come together.

The other way round, the place and the open containers always hold all the tokens that were read
(`tokensRead_of_advance?`).
-/

namespace TactilePad.Json

/-! ### Whole trees -/

theorem isWhole_array {items : List Json} {closed : Bool} :
    (array items closed).isWhole = true ↔ closed = true ∧ areWhole items = true := by
  rw [isWhole, Bool.and_eq_true]

theorem isWhole_object {members : List (Option String × Json)} {closed : Bool} :
    (object members closed).isWhole = true ↔ closed = true ∧ haveWholeValues members = true := by
  rw [isWhole, Bool.and_eq_true]

theorem areWhole_cons {v : Json} {items : List Json} :
    areWhole (v :: items) = true ↔ v.isWhole = true ∧ areWhole items = true := by
  rw [areWhole, Bool.and_eq_true]

theorem haveWholeValues_cons {name? : Option String} {v : Json}
    {members : List (Option String × Json)} :
    haveWholeValues ((name?, v) :: members) = true
      ↔ v.isWhole = true ∧ haveWholeValues members = true := by
  rw [haveWholeValues, Bool.and_eq_true]

theorem areWhole_iff {items : List Json} :
    areWhole items = true ↔ ∀ v ∈ items, v.isWhole = true := by
  induction items with
  | nil => simp [areWhole]
  | cons v items ih => rw [areWhole_cons, ih, List.forall_mem_cons]

theorem haveWholeValues_iff {members : List (Option String × Json)} :
    haveWholeValues members = true ↔ ∀ member ∈ members, member.2.isWhole = true := by
  induction members with
  | nil => simp [haveWholeValues]
  | cons member members ih => rw [haveWholeValues_cons, ih, List.forall_mem_cons]

theorem areWhole_reverse {items : List Json} :
    areWhole items.reverse = true ↔ areWhole items = true := by
  simp only [areWhole_iff, List.mem_reverse]

theorem haveWholeValues_reverse {members : List (Option String × Json)} :
    haveWholeValues members.reverse = true ↔ haveWholeValues members = true := by
  simp only [haveWholeValues_iff, List.mem_reverse]

/-! ### The tokens of a tree -/

/-- A token that can stand at its place is read, and the rest goes on from where it leads. -/
theorem readTokens_cons {place place' : Place} {frames frames' : List Frame} {t : Token}
    (h : advance? place frames t = some (place', frames')) (ts : List Token) :
    readTokens place frames (t :: ts) = readTokens place' frames' ts := by
  rw [readTokens, h]

/-- The first item of an array is read like any other value. -/
theorem readTokens_firstItem {v : Json} (h : v.isWhole = true) (items : List Json)
    (frames : List Frame) (ts : List Token) :
    readTokens .firstItem frames (itemTokens (v :: items) ++ ts)
      = readTokens .value (.item [] :: frames) (itemTokens (v :: items) ++ ts) := by
  obtain ⟨rest, hrest⟩ : ∃ rest, itemTokens (v :: items) = v.tokens ++ rest := by
    cases items <;> exact ⟨_, rfl⟩
  rw [hrest, List.append_assoc]
  cases v with
  | missing => cases h
  | _ => rfl

/-- The first member of an object is read like any other. -/
theorem readTokens_firstName (member : Option String × Json)
    (members : List (Option String × Json)) (frames : List Frame) (ts : List Token) :
    readTokens .firstName frames (memberTokens (member :: members) ++ ts)
      = readTokens (.nextName []) frames (memberTokens (member :: members) ++ ts) := by
  cases members <;> rfl

mutual

/-- The tokens of a whole tree are read as that tree. -/
theorem readTokens_tokens (v : Json) (h : v.isWhole = true) (frames : List Frame)
    (ts : List Token) :
    readTokens .value frames (v.tokens ++ ts) = readTokens (.follow v) frames ts := by
  match v, h with
  | .null, _ | .bool _, _ | .number _, _ | .string _, _ => exact readTokens_cons rfl ts
  | .array [] closed, h =>
    obtain rfl : closed = true := (isWhole_array.1 h).1
    rfl
  -- The first item is told from an empty array by its first token.
  | .array (v :: items) closed, h =>
    obtain ⟨rfl, hitems⟩ := isWhole_array.1 h
    show readTokens .value frames (.openBracket :: (itemTokens (v :: items) ++ ts)) = _
    rw [readTokens_cons rfl, readTokens_firstItem (areWhole_cons.1 hitems).1,
      readTokens_itemTokens (v :: items) (by simp) hitems]
    rfl
  | .object [] closed, h =>
    obtain rfl : closed = true := (isWhole_object.1 h).1
    rfl
  | .object (member :: members) closed, h =>
    obtain ⟨rfl, hmembers⟩ := isWhole_object.1 h
    show readTokens .value frames (.openBrace :: (memberTokens (member :: members) ++ ts)) = _
    rw [readTokens_cons rfl, readTokens_firstName,
      readTokens_memberTokens (member :: members) (by simp) hmembers]
    rfl

/-- Items are read behind those before them, up to the end of the array. -/
theorem readTokens_itemTokens (items : List Json) (hne : items ≠ [])
    (h : areWhole items = true) (before : List Json) (frames : List Frame) (ts : List Token) :
    readTokens .value (.item before :: frames) (itemTokens items ++ ts)
      = readTokens (.follow (.array (before.reverse ++ items) true)) frames ts := by
  -- The items that were read stand in reverse in the frame.
  match items, h with
  | [v], h =>
    show readTokens _ _ (v.tokens ++ [.closeBracket] ++ ts) = _
    rw [List.append_assoc, readTokens_tokens v (areWhole_cons.1 h).1]
    show readTokens (.follow (.array (v :: before).reverse true)) frames ts = _
    rw [List.reverse_cons]
  | v :: w :: items, h =>
    show readTokens _ _ (v.tokens ++ .comma :: itemTokens (w :: items) ++ ts) = _
    rw [List.append_assoc, readTokens_tokens v (areWhole_cons.1 h).1]
    show readTokens .value (.item (v :: before) :: frames) (itemTokens (w :: items) ++ ts) = _
    rw [readTokens_itemTokens (w :: items) (by simp) (areWhole_cons.1 h).2, List.reverse_cons,
      List.append_assoc, List.singleton_append]

/-- Members are read behind those before them, up to the end of the object. -/
theorem readTokens_memberTokens (members : List (Option String × Json)) (hne : members ≠ [])
    (h : haveWholeValues members = true) (before : List (Option String × Json))
    (frames : List Frame) (ts : List Token) :
    readTokens (.nextName before) frames (memberTokens members ++ ts)
      = readTokens (.follow (.object (before.reverse ++ members) true)) frames ts := by
  match members, h with
  | [(name?, v)], h =>
    show readTokens .value (.member before name? :: frames) (v.tokens ++ [.closeBrace] ++ ts) = _
    rw [List.append_assoc, readTokens_tokens v (haveWholeValues_cons.1 h).1]
    show readTokens (.follow (.object ((name?, v) :: before).reverse true)) frames ts = _
    rw [List.reverse_cons]
  | (name?, v) :: member :: members, h =>
    show readTokens .value (.member before name? :: frames)
      (v.tokens ++ .comma :: memberTokens (member :: members) ++ ts) = _
    rw [List.append_assoc, readTokens_tokens v (haveWholeValues_cons.1 h).1]
    show readTokens (.nextName ((name?, v) :: before)) frames
      (memberTokens (member :: members) ++ ts) = _
    rw [readTokens_memberTokens (member :: members) (by simp) (haveWholeValues_cons.1 h).2,
      List.reverse_cons, List.append_assoc, List.singleton_append]

end

/-! ### Every token is kept -/

/-- The items before the current one, each with the comma behind it. -/
def itemTokensBefore (before : List Json) : List Token :=
  before.reverse.flatMap fun v => v.tokens ++ [.comma]

/-- The members before the current one, each with the comma behind it. -/
def memberTokensBefore (before : List (Option String × Json)) : List Token :=
  before.reverse.flatMap fun (name?, v) => .string name? :: .colon :: v.tokens ++ [.comma]

/-- The tokens of an open container up to the value that is being read. -/
def Frame.tokens : Frame → List Token
  | .item before => .openBracket :: itemTokensBefore before
  | .member before name? => .openBrace :: memberTokensBefore before ++ [.string name?, .colon]

/-- The tokens that were read since the last container was opened and left behind. -/
def Place.tokens : Place → List Token
  | .value => []
  | .firstItem => [.openBracket]
  | .firstName => [.openBrace]
  | .nextName before => .openBrace :: memberTokensBefore before
  | .colon before name? => .openBrace :: memberTokensBefore before ++ [.string name?]
  | .follow v => v.tokens

/-- All tokens that were read. -/
def tokensRead (place : Place) (frames : List Frame) : List Token :=
  frames.reverse.flatMap Frame.tokens ++ place.tokens

/-- The last item has the closing bracket behind it. -/
theorem itemTokens_concat (items : List Json) (v : Json) :
    itemTokens (items ++ [v])
      = items.flatMap (fun v => v.tokens ++ [.comma]) ++ v.tokens ++ [.closeBracket] := by
  induction items with
  | nil => rfl
  | cons w items ih =>
    have hcons : itemTokens (w :: (items ++ [v]))
        = w.tokens ++ .comma :: itemTokens (items ++ [v]) := by
      cases items <;> rfl
    rw [List.cons_append, hcons, ih]
    simp

/-- The last member has the closing brace behind it. -/
theorem memberTokens_concat (members : List (Option String × Json)) (name? : Option String)
    (v : Json) :
    memberTokens (members ++ [(name?, v)])
      = members.flatMap (fun (name?, v) => .string name? :: .colon :: v.tokens ++ [.comma])
        ++ .string name? :: .colon :: v.tokens ++ [.closeBrace] := by
  induction members with
  | nil => rfl
  | cons member members ih =>
    obtain ⟨name'?, w⟩ := member
    -- Behind a member that is not the last one there is a comma.
    have hcons : memberTokens ((name'?, w) :: (members ++ [(name?, v)]))
        = .string name'? :: .colon :: w.tokens
          ++ .comma :: memberTokens (members ++ [(name?, v)]) := by
      cases members <;> rfl
    rw [List.cons_append, hcons, ih]
    simp

/-- A value that is begun is one token so far. -/
theorem tokensRead_of_begin? {frames frames' : List Frame} {t : Token} {place : Place}
    (h : begin? frames t = some (place, frames')) :
    tokensRead place frames' = frames.reverse.flatMap Frame.tokens ++ [t] := by
  cases t <;> cases h <;> rfl

/-- A token that is read is kept. -/
theorem tokensRead_of_advance? {place place' : Place} {frames frames' : List Frame} {t : Token}
    (h : advance? place frames t = some (place', frames')) :
    tokensRead place' frames' = tokensRead place frames ++ [t] := by
  unfold advance? at h
  split at h
  -- A value begins, on its own or as the first item of an array.
  case h_1 =>
    rw [tokensRead_of_begin? h]
    simp [tokensRead, Place.tokens]
  case h_3 =>
    rw [tokensRead_of_begin? h]
    simp [tokensRead, Place.tokens, Frame.tokens, itemTokensBefore]
  case h_12 => cases h
  -- At every other place the token is kept where it was read.
  all_goals
    cases h
    simp [tokensRead, Place.tokens, Frame.tokens, Json.tokens, itemTokensBefore,
      memberTokensBefore, itemTokens, memberTokens, itemTokens_concat, memberTokens_concat]

/-! ### What is read is whole -/

/-- The values that were read before the current one are whole. -/
def Frame.IsWhole : Frame → Prop
  | .item before => areWhole before = true
  | .member before _ => haveWholeValues before = true

/-- What was read since the last container was opened and left behind is whole. -/
def Place.IsWhole : Place → Prop
  | .nextName before | .colon before _ => haveWholeValues before = true
  | .follow v => v.isWhole = true
  | .value | .firstItem | .firstName => True

/-- What a token begins has no part missing so far. -/
theorem isWhole_of_begin? {frames frames' : List Frame} {t : Token} {place : Place}
    (h : begin? frames t = some (place, frames')) : place.IsWhole ∧ frames' = frames := by
  cases t <;> cases h <;> exact ⟨by trivial, rfl⟩

/-- Reading one more token leaves everything that was read whole. -/
theorem isWhole_of_advance? {place place' : Place} {frames frames' : List Frame} {t : Token}
    (h : advance? place frames t = some (place', frames')) (hplace : place.IsWhole)
    (hframes : ∀ frame ∈ frames, frame.IsWhole) :
    place'.IsWhole ∧ ∀ frame ∈ frames', frame.IsWhole := by
  unfold advance? at h
  split at h
  case h_1 =>
    obtain ⟨hplace', rfl⟩ := isWhole_of_begin? h
    exact ⟨hplace', hframes⟩
  case h_3 =>
    obtain ⟨hplace', rfl⟩ := isWhole_of_begin? h
    exact ⟨hplace', List.forall_mem_cons.2 ⟨rfl, hframes⟩⟩
  case h_12 => cases h
  all_goals cases h
  case h_2 | h_4 | h_5 => exact ⟨rfl, hframes⟩
  case h_6 => exact ⟨hplace, hframes⟩
  case h_7 => exact ⟨trivial, List.forall_mem_cons.2 ⟨hplace, hframes⟩⟩
  -- A value comes to those before it in the innermost container.
  all_goals obtain ⟨hbefore, hothers⟩ := List.forall_mem_cons.1 hframes
  case h_8 =>
    exact ⟨trivial, List.forall_mem_cons.2 ⟨areWhole_cons.2 ⟨hplace, hbefore⟩, hothers⟩⟩
  case h_9 =>
    refine ⟨isWhole_array.2 ⟨rfl, areWhole_reverse.2 ?_⟩, hothers⟩
    exact areWhole_cons.2 ⟨hplace, hbefore⟩
  case h_10 => exact ⟨haveWholeValues_cons.2 ⟨hplace, hbefore⟩, hothers⟩
  case h_11 =>
    refine ⟨isWhole_object.2 ⟨rfl, haveWholeValues_reverse.2 ?_⟩, hothers⟩
    exact haveWholeValues_cons.2 ⟨hplace, hbefore⟩

/-- Once all tokens are read, the tree has the tokens that were read and is whole. -/
theorem tokens_of_readTokens {place : Place} {frames : List Frame} {ts : List Token} {v : Json}
    (h : readTokens place frames ts = ⟨v, true⟩) (hplace : place.IsWhole)
    (hframes : ∀ frame ∈ frames, frame.IsWhole) :
    v.tokens = tokensRead place frames ++ ts ∧ v.isWhole = true := by
  induction ts generalizing place frames with
  | nil =>
    obtain ⟨hroot, hend⟩ := Document.mk.inj h
    unfold Place.isEnd at hend
    split at hend
    · next w =>
      obtain rfl : w = v := hroot
      exact ⟨by simp [tokensRead, Place.tokens], hplace⟩
    · cases hend
  | cons t ts ih =>
    rw [readTokens] at h
    split at h
    · next place' frames' hadvance =>
      -- The first token moves on to what was read, which is whole with it.
      obtain ⟨hplace', hframes'⟩ := isWhole_of_advance? hadvance hplace hframes
      obtain ⟨htokens, hwhole⟩ := ih h hplace' hframes'
      rw [tokensRead_of_advance? hadvance, List.append_assoc] at htokens
      exact ⟨htokens, hwhole⟩
    · cases h

/-- Tokens make a complete text if and only if they are those of a whole tree. -/
theorem Document.ofTokens_eq_iff {ts : List Token} {v : Json} :
    ofTokens ts = ⟨v, true⟩ ↔ ts = v.tokens ∧ v.isWhole = true := by
  constructor
  · intro h
    obtain ⟨htokens, hwhole⟩ := tokens_of_readTokens h trivial (by simp)
    exact ⟨htokens.symm, hwhole⟩
  · rintro ⟨rfl, hwhole⟩
    have hread := readTokens_tokens v hwhole [] []
    rw [List.append_nil] at hread
    rw [ofTokens, hread]
    rfl

/-! ### Texts -/

/-- What a text reads as goes by its tokens. -/
theorem Document.ofChars_eq_iff {cs : List Char} {v : Json} :
    ofChars cs = ⟨v, true⟩ ↔ Token.scan cs = v.tokens ∧ v.isWhole = true :=
  ofTokens_eq_iff

mutual

/-- No token of a tree is a stray. -/
theorem stray_not_mem_tokens (v : Json) : .stray ∉ v.tokens := by
  match v with
  | .null | .bool _ | .number _ | .string _ | .missing => simp [tokens]
  | .array items _ => simp [tokens, stray_not_mem_itemTokens items]
  | .object members _ => simp [tokens, stray_not_mem_memberTokens members]

theorem stray_not_mem_itemTokens (items : List Json) : .stray ∉ itemTokens items := by
  match items with
  | [] => simp [itemTokens]
  | [v] => simp [itemTokens, stray_not_mem_tokens v]
  | v :: w :: items =>
    simp [itemTokens, stray_not_mem_tokens v, stray_not_mem_itemTokens (w :: items)]

theorem stray_not_mem_memberTokens (members : List (Option String × Json)) :
    .stray ∉ memberTokens members := by
  match members with
  | [] => simp [memberTokens]
  | [(_, v)] => simp [memberTokens, stray_not_mem_tokens v]
  | (_, v) :: member :: members =>
    simp [memberTokens, stray_not_mem_tokens v, stray_not_mem_memberTokens (member :: members)]

end

mutual

/-- A plain tree is whole. -/
theorem IsPlain.isWhole {v : Json} (h : v.IsPlain) : v.isWhole = true := by
  match v, h with
  | .null, _ | .bool _, _ | .number _, _ | .string _, _ => rfl
  | .array items closed, h => exact isWhole_array.2 ⟨h.1, h.2.areWhole⟩
  | .object members closed, h => exact isWhole_object.2 ⟨h.1, h.2.haveWholeValues⟩

theorem ArePlain.areWhole {items : List Json} (h : ArePlain items) : areWhole items = true := by
  match items, h with
  | [], _ => rfl
  | _ :: _, h => exact areWhole_cons.2 ⟨h.1.isWhole, h.2.areWhole⟩

theorem HavePlainValues.haveWholeValues {members : List (Option String × Json)}
    (h : HavePlainValues members) : haveWholeValues members = true := by
  match members, h with
  | [], _ => rfl
  | _ :: _, h => exact haveWholeValues_cons.2 ⟨h.2.1.isWhole, h.2.2.haveWholeValues⟩

end

/-- A plain tree comes back from its text, and the text holds nothing else. -/
theorem Document.ofChars_chars {v : Json} (h : v.IsPlain) : ofChars v.chars = ⟨v, true⟩ := by
  have hscan : Token.scan v.chars = v.tokens := by
    have hscan := scan_chars v h endsNumber_nil
    simpa [Token.scan] using hscan
  exact ofChars_eq_iff.2 ⟨hscan, h.isWhole⟩

end TactilePad.Json
