import TactilePad.Proofs.Json.Document
import TactilePad.Proofs.Json.Scanning

/-!
# Objects as they stand in a text

* `ValueText.object`: members side by side, with commas between them, are the text of an object.
* `ValueText.exists_eq_object`: the text of an object is made that way.

The text of a value is known by its tokens, so a text of parts is read by cutting it where the parts
meet (`scan_joinMembers`), and a text is taken apart by cutting it at its braces, colons and commas
(`exists_memberTexts`).
-/

namespace TactilePad.Json

/-! ### Values and members -/

/-- The text of one value and nothing else; blanks may stand around the value and in it. -/
structure ValueText where
  chars : List Char
  tree : Json
  reads : Document.ofChars chars = ⟨tree, true⟩

/-- A member as it stands in the text of an object: its name, spelled in any way, a colon and its
value.  Blanks may stand around the name. -/
structure MemberText where
  nameChars : List Char
  name : String
  spells : Token.scan nameChars = [.string (some name)]
  value : ValueText

namespace ValueText

theorem scan_chars (v : ValueText) : Token.scan v.chars = v.tree.tokens :=
  (Document.ofChars_eq_iff.1 v.reads).1

theorem isWhole_tree (v : ValueText) : v.tree.isWhole = true :=
  (Document.ofChars_eq_iff.1 v.reads).2

/-- A text has one tree only. -/
theorem eq_of_chars {v w : ValueText} (h : v.chars = w.chars) : v = w := by
  obtain ⟨chars, tree, reads⟩ := v
  obtain ⟨chars', tree', reads'⟩ := w
  obtain rfl : chars = chars' := h
  obtain rfl : tree = tree' := (Document.mk.inj (reads.symm.trans reads')).1
  rfl

def text (v : ValueText) : String :=
  String.ofList v.chars

/-- The text of a plain tree as a writer has it: any plain tree is the value of a member. -/
def ofPlain (v : Json) (h : v.IsPlain) : ValueText where
  chars := v.chars
  tree := v
  reads := Document.ofChars_chars h

end ValueText

namespace MemberText

def chars (m : MemberText) : List Char :=
  m.nameChars ++ ':' :: m.value.chars

/-- The member of the tree. -/
def entry (m : MemberText) : Option String × Json :=
  (some m.name, m.value.tree)

/-- A member with its name as a writer spells it: any string is the name of a member. -/
def ofName (name : String) (value : ValueText) : MemberText where
  nameChars := stringChars name
  name := name
  spells := by simpa [Token.scan] using scan_string name []
  value := value

/-- A member is cut off in front of the comma or the brace behind it. -/
theorem scan_chars_append (m : MemberText) {c : Char} (hc : c ∈ [':', ',', ']', '\x7d'])
    (cs : List Char) :
    Token.scan (m.chars ++ c :: cs)
      = .string (some m.name) :: .colon :: m.value.tree.tokens ++ Token.scan (c :: cs) := by
  -- A value may be a number, and the punctuation behind it ends one.
  have hvalue : Token.scan (m.value.chars ++ c :: cs)
      = m.value.tree.tokens ++ Token.scan (c :: cs) := by
    rw [scan_append _ (endsNumber_of_punctuation hc cs), m.value.scan_chars]
    rw [m.value.scan_chars]
    exact stray_not_mem_tokens _
  have hname (cs : List Char) : Token.scan (m.nameChars ++ ':' :: cs)
      = .string (some m.name) :: Token.scan (':' :: cs) := by
    rw [scan_append _ (endsNumber_of_punctuation (by decide) cs), m.spells, List.singleton_append]
    simp [m.spells]
  rw [chars, List.append_assoc, List.cons_append, hname, scan_colon, hvalue]
  rfl

end MemberText

/-! ### Objects -/

/-- Members with commas between them. -/
def joinMembers (ms : List MemberText) : List Char :=
  [','].intercalate (ms.map MemberText.chars)

theorem joinMembers_singleton (m : MemberText) : joinMembers [m] = m.chars :=
  List.intercalate_singleton

theorem joinMembers_cons {ms : List MemberText} (hms : ms ≠ []) (m : MemberText) :
    joinMembers (m :: ms) = m.chars ++ ',' :: joinMembers ms := by
  have hchars : ms.map MemberText.chars ≠ [] := by simpa using hms
  rw [joinMembers, List.map_cons, List.intercalate_cons_of_ne_nil hchars, List.append_assoc]
  rfl

/-- Members side by side are cut into the tokens of all of them. -/
theorem scan_joinMembers (ms : List MemberText) (cs : List Char) :
    Token.scan (joinMembers ms ++ '\x7d' :: cs)
      = memberTokens (ms.map MemberText.entry) ++ Token.scan cs := by
  induction ms with
  | nil => exact scan_closeBrace cs
  | cons m ms ih =>
    -- The last member has no comma behind it.
    cases ms with
    | nil =>
      rw [joinMembers_singleton, m.scan_chars_append (by decide), scan_closeBrace]
      simp [memberTokens, MemberText.entry]
    | cons m' ms =>
      rw [joinMembers_cons (List.cons_ne_nil _ _), List.append_assoc, List.cons_append,
        m.scan_chars_append (by decide), scan_comma, ih]
      simp [memberTokens, MemberText.entry]

/-- The blanks of an object's text that stand next to no member. -/
structure Margins where
  /-- Before the opening brace. -/
  lead : List Char
  /-- Behind the opening brace. -/
  gap : List Char
  /-- Behind the closing brace. -/
  tail : List Char
  blank : ∀ c ∈ lead ++ gap ++ tail, isBlank c = true

/-- No blanks. -/
def Margins.compact : Margins where
  lead := []
  gap := []
  tail := []
  blank := by simp

/-- The text of an object. -/
def objectChars (b : Margins) (ms : List MemberText) : List Char :=
  b.lead ++ '\x7b' :: (b.gap ++ (joinMembers ms ++ '\x7d' :: b.tail))

/-- The text of an object reads as that object. -/
theorem ofChars_objectChars (b : Margins) (ms : List MemberText) :
    Document.ofChars (objectChars b ms) = ⟨.object (ms.map MemberText.entry) true, true⟩ := by
  have hblank := b.blank
  simp only [List.forall_mem_append] at hblank
  obtain ⟨⟨hlead, hgap⟩, htail⟩ := hblank
  have hnothing : Token.scan b.tail = [] := by
    simpa [Token.scan] using scan_blanks_append htail []
  refine Document.ofChars_eq_iff.2 ⟨?_, isWhole_object.2 ⟨rfl, ?_⟩⟩
  · rw [objectChars, scan_blanks_append hlead, scan_openBrace, scan_blanks_append hgap,
      scan_joinMembers, hnothing, List.append_nil, tokens]
  · rw [haveWholeValues_iff, List.forall_mem_map]
    intro m _
    exact m.value.isWhole_tree

/-- The text of an object, made of members. -/
def ValueText.object (b : Margins) (ms : List MemberText) : ValueText where
  chars := objectChars b ms
  tree := .object (ms.map MemberText.entry) true
  reads := ofChars_objectChars b ms

/-- The text of an object as a string. -/
def objectText (b : Margins) (ms : List MemberText) : String :=
  (ValueText.object b ms).text

/-! ### Taking an object apart -/

/-- A member is cut off in front of the mark behind it. -/
theorem exists_memberText {name : String} {v : Json} (hv : v.isWhole = true) {t : Token}
    {mark : Char} (hmark : t.mark? = some mark) {cs : List Char} {ts : List Token}
    (h : Token.scan cs = .string (some name) :: .colon :: v.tokens ++ t :: ts) :
    ∃ m back, cs = m.chars ++ mark :: back ∧ MemberText.entry m = (some name, v) ∧
      Token.scan back = ts := by
  obtain ⟨nameChars, behind, rfl, hspells, hbehind⟩ :=
    exists_cut (t := .colon) rfl [.string (some name)] h
  obtain ⟨valueChars, back, rfl, hvalue, hback⟩ := exists_cut hmark v.tokens hbehind
  have hreads : Document.ofChars valueChars = ⟨v, true⟩ := Document.ofChars_eq_iff.2 ⟨hvalue, hv⟩
  refine ⟨⟨nameChars, name, hspells, valueChars, v, hreads⟩, back, ?_, rfl, hback⟩
  simp [MemberText.chars]

/-- What has the tokens of members and a brace is members and a brace. -/
theorem exists_memberTexts {members : List (Option String × Json)} (hne : members ≠ [])
    (hnames : ∀ member ∈ members, member.1.isSome = true)
    (hwhole : haveWholeValues members = true) {cs : List Char}
    (h : Token.scan cs = memberTokens members) :
    ∃ ms tail, cs = joinMembers ms ++ '\x7d' :: tail ∧ ms.map MemberText.entry = members ∧
      Token.scan tail = [] := by
  induction members generalizing cs with
  | nil => exact absurd rfl hne
  | cons member members ih =>
    obtain ⟨name?, v⟩ := member
    obtain ⟨hname, hothers⟩ := List.forall_mem_cons.1 hnames
    obtain ⟨name, rfl⟩ := Option.isSome_iff_exists.1 hname
    obtain ⟨hv, hvalues⟩ := haveWholeValues_cons.1 hwhole
    -- The last member ends at the brace, any other one at a comma.
    cases members with
    | nil =>
      obtain ⟨m, tail, rfl, hm, htail⟩ := exists_memberText (t := .closeBrace) hv rfl h
      exact ⟨[m], tail, by rw [joinMembers_singleton], by rw [List.map_singleton, hm], htail⟩
    | cons member members =>
      obtain ⟨m, back, rfl, hm, hback⟩ := exists_memberText (t := .comma) hv rfl h
      obtain ⟨ms, tail, rfl, hms, htail⟩ := ih (List.cons_ne_nil _ _) hothers hvalues hback
      have hmore : ms ≠ [] := by
        rintro rfl
        cases hms
      refine ⟨m :: ms, tail, ?_, by rw [List.map_cons, hm, hms], htail⟩
      rw [joinMembers_cons hmore, List.append_assoc, List.cons_append]

/-- The text of an object is made of members, if all names have a text. -/
theorem ValueText.exists_eq_object {v : ValueText} {members : List (Option String × Json)}
    {closed : Bool} (htree : v.tree = .object members closed)
    (hnames : ∀ member ∈ members, member.1.isSome = true) :
    ∃ b ms, v = .object b ms := by
  have hwhole : haveWholeValues members = true := (isWhole_object.1 (htree ▸ v.isWhole_tree)).2
  have hscan : Token.scan v.chars = .openBrace :: memberTokens members := by
    rw [v.scan_chars, htree, tokens]
  obtain ⟨lead, back, hchars, hlead, hback⟩ := exists_cut (t := .openBrace) rfl [] hscan
  -- Around the braces and between them there are blanks only.
  suffices ∃ gap ms tail, back = gap ++ (joinMembers ms ++ '\x7d' :: tail) ∧
      Token.scan gap = [] ∧ Token.scan tail = [] by
    obtain ⟨gap, ms, tail, rfl, hgap, htail⟩ := this
    have hblank : ∀ c ∈ lead ++ gap ++ tail, isBlank c = true := by
      simp only [List.forall_mem_append]
      exact ⟨⟨isBlank_of_scan hlead, isBlank_of_scan hgap⟩, isBlank_of_scan htail⟩
    exact ⟨⟨lead, gap, tail, hblank⟩, ms, eq_of_chars hchars⟩
  cases members with
  | nil =>
    obtain ⟨gap, tail, rfl, hgap, htail⟩ := exists_cut (t := .closeBrace) rfl [] hback
    exact ⟨gap, [], tail, rfl, hgap, htail⟩
  | cons member members =>
    obtain ⟨ms, tail, rfl, -, htail⟩ :=
      exists_memberTexts (List.cons_ne_nil _ _) hnames hwhole hback
    exact ⟨[], ms, tail, rfl, by rw [Token.scan], htail⟩

end TactilePad.Json
