import TactilePad.Json.Reader
import TactilePad.Proofs.Json.ObjectText
import Mathlib.Logic.Relation

/-!
# Texts with their members rearranged

* `Rearranges`: a text becomes another one by putting the members of a record in another order, by
  adding a member that is no field, or by changing blanks.
* `Fields.Orderly.tolerates_read`: a record is read from the second text as from the first.

What a reader of a record needs for that is said of its fields (`Fields.Orderly`): a member is
passed over if its name is that of no field, and two members that are taken may be taken in either
order.
A single field has this (`Fields.orderly_one`), and so have the fields of two readers together
(`Fields.Orderly.both`).
-/

namespace TactilePad.Json

/-! ### Rearranged texts -/

/-- Where the records are in a value: the names of the fields, each with what is in the field. -/
inductive Shape
  | scalar
  | record (fields : List (String × Shape))

/-- One step from a text to a text with its members rearranged. -/
inductive Rearranges : Shape → String → String → Prop
  /-- The members of a record come in another order. -/
  | permute {fields : List (String × Shape)} {ms ms' : List MemberText} (b : Margins)
      (h : ms.Perm ms') : Rearranges (.record fields) (objectText b ms) (objectText b ms')
  /-- A member comes in whose name is not that of a field. -/
  | insert {fields : List (String × Shape)} (b : Margins) (before after : List MemberText)
      {m : MemberText} (hm : fields.lookup m.name = none) :
      Rearranges (.record fields) (objectText b (before ++ after))
        (objectText b (before ++ m :: after))
  /-- The value of a field is rearranged. -/
  | within {fields : List (String × Shape)} (b : Margins) (before after : List MemberText)
      {m : MemberText} {shape : Shape} {v : ValueText} (hm : fields.lookup m.name = some shape)
      (h : Rearranges shape m.value.text v.text) :
      Rearranges (.record fields) (objectText b (before ++ m :: after))
        (objectText b (before ++ { m with value := v } :: after))
  /-- The blanks between the tokens are others. -/
  | respace {shape : Shape} {x y : String} (h : Token.scan x.toList = Token.scan y.toList) :
      Rearranges shape x y

/-- A text in which every record of the shape is written as an object, and so can be rearranged, or
as an array. -/
inductive IsLaidOut : Shape → String → Prop
  | scalar (x : String) : IsLaidOut .scalar x
  | array {fields : List (String × Shape)} {v : ValueText} {items : List Json} {closed : Bool}
      (h : v.tree = .array items closed) : IsLaidOut (.record fields) v.text
  | object {fields : List (String × Shape)} (b : Margins) {ms : List MemberText}
      (h : ∀ m ∈ ms, ∀ shape, fields.lookup m.name = some shape → IsLaidOut shape m.value.text) :
      IsLaidOut (.record fields) (objectText b ms)

/-- A reader that reads rearranged texts alike, and no text but one that can be rearranged wherever
the shape has a record. -/
structure Reader.Tolerates {α : Type} (read : Reader α) (shape : Shape) : Prop where
  decode_rearranged {x y : String} {a : α} (hx : decode read x = .ok a)
    (h : Rearranges shape x y) : decode read y = .ok a
  isLaidOut {x : String} {a : α} (hx : decode read x = .ok a) : IsLaidOut shape x

/-! ### Decoding -/

section Decoding

variable {α β : Type} {read : Reader α}

theorem bind_eq_ok {ε : Type} {x : Except ε α} {f : α → Except ε β} {b : β} :
    x.bind f = .ok b ↔ ∃ a, x = .ok a ∧ f a = .ok b := by
  cases x with
  | error e => simp [Except.bind]
  | ok a => simp [Except.bind]

/-- The text of a value is decoded as its tree is read. -/
theorem decode_text (read : Reader α) (v : ValueText) : decode read v.text = read v.tree := by
  rw [decode, decodeChars, ValueText.text, String.toList_ofList, v.reads]
  cases read v.tree <;> rfl

/-- What is decoded is the text of one value. -/
theorem exists_valueText {x : String} {a : α} (h : decode read x = .ok a) :
    ∃ v : ValueText, v.text = x ∧ read v.tree = .ok a := by
  obtain ⟨a', hread, hcomplete⟩ := bind_eq_ok.1 h
  split at hcomplete
  · next hc =>
    obtain rfl : a' = a := Except.ok.inj hcomplete
    refine ⟨⟨x.toList, (Document.ofChars x.toList).root, ?_⟩, String.ofList_toList, hread⟩
    rw [← hc]
  · cases hcomplete

/-- Texts of the same tokens are decoded alike. -/
theorem decode_respaced (read : Reader α) {x y : String}
    (h : Token.scan x.toList = Token.scan y.toList) : decode read x = decode read y := by
  rw [decode, decode, decodeChars, decodeChars, Document.ofChars, Document.ofChars, h]

/-- A value that is mapped after it was read is decoded if it is decoded itself. -/
theorem decode_map_eq_ok {f : α → β} {x : String} {b : β} :
    decode (fun v => (read v).map f) x = .ok b ↔ ∃ a, decode read x = .ok a ∧ f a = b := by
  constructor
  · intro h
    obtain ⟨v, rfl, hread⟩ := exists_valueText h
    cases hv : read v.tree with
    | error e =>
      rw [hv] at hread
      cases hread
    | ok a =>
      rw [hv] at hread
      exact ⟨a, (decode_text read v).trans hv, Except.ok.inj hread⟩
  · rintro ⟨a, h, rfl⟩
    obtain ⟨v, rfl, hread⟩ := exists_valueText h
    rw [decode_text, hread]
    rfl

/-- No reader of scalars goes into a record. -/
theorem Reader.tolerates_scalar (read : Reader α) : read.Tolerates .scalar where
  decode_rearranged hx h := by
    cases h with
    | respace h => rwa [← decode_respaced read h]
  isLaidOut _ := .scalar _

/-- A reader that is mapped tolerates what it tolerated. -/
theorem Reader.Tolerates.map {shape : Shape} (h : read.Tolerates shape) (f : α → β) :
    Reader.Tolerates (fun v => (read v).map f) shape where
  decode_rearranged hx hxy := by
    obtain ⟨a, ha, rfl⟩ := decode_map_eq_ok.1 hx
    exact decode_map_eq_ok.2 ⟨a, h.decode_rearranged ha hxy, rfl⟩
  isLaidOut hx := by
    obtain ⟨a, ha, rfl⟩ := decode_map_eq_ok.1 hx
    exact h.isLaidOut ha

end Decoding

/-! ### Fields in any order -/

namespace Fields

variable {σ τ α β : Type} {fields : Fields σ α} {names : List (String × Shape)}

/-- The fields of a record, by their names and what is in them, may come in any order. -/
structure Orderly (fields : Fields σ α) (names : List (String × Shape)) : Prop where
  /-- Only a member whose name is that of no field is passed over. -/
  put?_eq_none_iff (name : String) (v : Json) (s : σ) :
    fields.put? name v s = none ↔ names.lookup name = none
  /-- A member is taken for the value that is read from it. -/
  exists_reader {name : String} {v : Json} {s s' : σ} (h : fields.put? name v s = some (.ok s')) :
    ∃ (β : Type) (read : Reader β) (shape : Shape) (b : β), names.lookup name = some shape ∧
      read.Tolerates shape ∧ read v = .ok b ∧
        ∀ w, read w = .ok b → fields.put? name w s = some (.ok s')
  /-- Two members that are taken one after the other are taken the other way round as well. -/
  swap {name name' : String} {v v' : Json} {s s₁ s₂ : σ}
    (h : fields.put? name v s = some (.ok s₁)) (h' : fields.put? name' v' s₁ = some (.ok s₂)) :
    ∃ s₁', fields.put? name' v' s = some (.ok s₁') ∧ fields.put? name v s₁' = some (.ok s₂)

/-- Whether a member is passed over does not depend on the members before it. -/
theorem Orderly.put?_eq_none (h : fields.Orderly names) {name : String} {v : Json} {s : σ}
    (hnone : fields.put? name v s = none) (s' : σ) : fields.put? name v s' = none :=
  (h.put?_eq_none_iff name v s').2 ((h.put?_eq_none_iff name v s).1 hnone)

/-- A single field takes one member of its name. -/
theorem put?_one_eq_ok {name name' : String} {read : Reader α} {v : Json}
    {seen? seen?' : Option α} :
    (one name read).put? name' v seen? = some (.ok seen?')
      ↔ name' = name ∧ seen? = none ∧ ∃ a, read v = .ok a ∧ seen?' = some a := by
  by_cases hname : name' = name
  · cases seen? with
    | some _ => simp [one, hname]
    | none =>
      cases hread : read v with
      | error e => simp [one, hname, hread, Except.map]
      | ok a => simp [one, hname, hread, Except.map, eq_comm]
  · simp [one, hname]

/-- One field is orderly: it takes its name once, and leaves every other name alone. -/
theorem orderly_one {read : Reader α} {shape : Shape} (h : read.Tolerates shape) (name : String) :
    (one name read).Orderly [(name, shape)] where
  put?_eq_none_iff name' v s := by
    by_cases hname : name' = name
    · simp [one, hname]
    · simp [one, hname, List.lookup_cons, beq_eq_false_iff_ne.2 hname]
  exists_reader hput := by
    obtain ⟨rfl, rfl, a, hread, rfl⟩ := put?_one_eq_ok.1 hput
    refine ⟨α, read, shape, a, by simp, h, hread, ?_⟩
    intro w hw
    exact put?_one_eq_ok.2 ⟨rfl, rfl, a, hw, rfl⟩
  swap hput hput' := by
    obtain ⟨-, -, a, -, rfl⟩ := put?_one_eq_ok.1 hput
    obtain ⟨-, hseen, -⟩ := put?_one_eq_ok.1 hput'
    cases hseen

/-- Of the fields of two readers those of the first take a member before those of the second. -/
theorem put?_both_eq_ok {a : Fields σ α} {b : Fields τ β} {name : String} {v : Json}
    {s s' : σ × τ} :
    (a.both b).put? name v s = some (.ok s')
      ↔ a.put? name v s.1 = some (.ok s'.1) ∧ s'.2 = s.2 ∨
        a.put? name v s.1 = none ∧ b.put? name v s.2 = some (.ok s'.2) ∧ s'.1 = s.1 := by
  obtain ⟨s₁, s₂⟩ := s
  obtain ⟨s₁', s₂'⟩ := s'
  cases ha : a.put? name v s₁ with
  | some r => cases r <;> simp [both, ha, Except.map, eq_comm]
  | none =>
    cases hb : b.put? name v s₂ with
    | none => simp [both, ha, hb]
    | some r => cases r <;> simp [both, ha, hb, Except.map, eq_comm, and_comm]

/-- Orderly fields are orderly together, the first of them before the second. -/
theorem Orderly.both {a : Fields σ α} {b : Fields τ β} {names names' : List (String × Shape)}
    (ha : a.Orderly names) (hb : b.Orderly names') : (a.both b).Orderly (names ++ names') where
  put?_eq_none_iff name v s := by
    rw [List.lookup_append, Option.or_eq_none_iff, ← ha.put?_eq_none_iff name v s.1,
      ← hb.put?_eq_none_iff name v s.2]
    cases hput : a.put? name v s.1 <;> simp [Fields.both, hput]
  exists_reader {name v s s'} hput := by
    rcases put?_both_eq_ok.1 hput with ⟨hput, hrest⟩ | ⟨hnone, hput, hrest⟩
    · obtain ⟨γ, read, shape, c, hname, htolerates, hread, hagain⟩ := ha.exists_reader hput
      refine ⟨γ, read, shape, c, by simp [List.lookup_append, hname], htolerates, hread, ?_⟩
      intro w hw
      exact put?_both_eq_ok.2 (.inl ⟨hagain w hw, hrest⟩)
    · have hunknown := (ha.put?_eq_none_iff name v s.1).1 hnone
      obtain ⟨γ, read, shape, c, hname, htolerates, hread, hagain⟩ := hb.exists_reader hput
      refine ⟨γ, read, shape, c, by simp [List.lookup_append, hname, hunknown], htolerates, hread,
        ?_⟩
      intro w hw
      have hnone' := (ha.put?_eq_none_iff name w s.1).2 hunknown
      exact put?_both_eq_ok.2 (.inr ⟨hnone', hagain w hw, hrest⟩)
  swap {name name' v v'} := by
    rintro ⟨s, t⟩ ⟨s₁, t₁⟩ ⟨s₂, t₂⟩ hput hput'
    -- By which reader each member is taken: only two of the same reader meet in one state.
    rcases put?_both_eq_ok.1 hput with ⟨hput, rfl⟩ | ⟨hnone, hput, rfl⟩ <;>
      rcases put?_both_eq_ok.1 hput' with ⟨hput', rfl⟩ | ⟨hnone', hput', rfl⟩
    · obtain ⟨s₁', h', h⟩ := ha.swap hput hput'
      exact ⟨(s₁', t₂), put?_both_eq_ok.2 (.inl ⟨h', rfl⟩), put?_both_eq_ok.2 (.inl ⟨h, rfl⟩)⟩
    · exact ⟨(s, t₂), put?_both_eq_ok.2 (.inr ⟨ha.put?_eq_none hnone' s, hput', rfl⟩),
        put?_both_eq_ok.2 (.inl ⟨hput, rfl⟩)⟩
    · exact ⟨(s₂, t), put?_both_eq_ok.2 (.inl ⟨hput', rfl⟩),
        put?_both_eq_ok.2 (.inr ⟨ha.put?_eq_none hnone s₂, hput, rfl⟩)⟩
    · obtain ⟨t₁', h', h⟩ := hb.swap hput hput'
      exact ⟨(s₂, t₁'), put?_both_eq_ok.2 (.inr ⟨hnone', h', rfl⟩),
        put?_both_eq_ok.2 (.inr ⟨hnone, h, rfl⟩)⟩

/-! ### Members in any order -/

/-- One member: it is taken or passed over. -/
inductive Accepts (fields : Fields σ α) (s : σ) : Option String × Json → σ → Prop
  | taken {name : String} {v : Json} {s' : σ} (h : fields.put? name v s = some (.ok s')) :
    Accepts fields s (some name, v) s'
  | passed {name : String} {v : Json} (h : fields.put? name v s = none) (hv : v.isWhole = true) :
    Accepts fields s (some name, v) s

/-- Members are absorbed one by one. -/
theorem absorb_cons_eq_ok {member : Option String × Json} {members : List (Option String × Json)}
    {s s' : σ} :
    fields.absorb s (member :: members) = .ok s'
      ↔ ∃ t, fields.Accepts s member t ∧ fields.absorb t members = .ok s' := by
  obtain ⟨name?, v⟩ := member
  constructor
  · intro h
    cases name? with
    | none => cases h
    | some name =>
      rw [absorb] at h
      split at h
      · next r hput =>
        obtain ⟨t, rfl, hrest⟩ := bind_eq_ok.1 h
        exact ⟨t, .taken hput, hrest⟩
      · next hput =>
        split at h
        · next hv => exact ⟨s, .passed hput hv, h⟩
        · cases h
  · -- A member is taken by a field, or passed by because no field has its name.
    rintro ⟨t, hmember, hrest⟩
    cases hmember with
    | taken hput =>
      rw [absorb, hput]
      exact hrest
    | passed hput hv => rwa [absorb, hput, if_pos hv]

theorem absorb_append_eq_ok {members members' : List (Option String × Json)} {s s' : σ} :
    fields.absorb s (members ++ members') = .ok s'
      ↔ ∃ t, fields.absorb s members = .ok t ∧ fields.absorb t members' = .ok s' := by
  induction members generalizing s with
  | nil => simp [absorb]
  | cons member members ih =>
    simp only [List.cons_append, absorb_cons_eq_ok, ih]
    constructor
    · rintro ⟨t, hmember, u, hu, hs'⟩
      exact ⟨u, ⟨t, hmember, hu⟩, hs'⟩
    · rintro ⟨u, ⟨t, hmember, hu⟩, hs'⟩
      exact ⟨t, hmember, u, hu, hs'⟩

namespace Orderly

/-- Two members may change places. -/
theorem accepts_swap (h : fields.Orderly names) {member member' : Option String × Json}
    {s s₁ s₂ : σ} (hfirst : fields.Accepts s member s₁) (hsecond : fields.Accepts s₁ member' s₂) :
    ∃ s₁', fields.Accepts s member' s₁' ∧ fields.Accepts s₁' member s₂ := by
  cases hfirst with
  | taken hput =>
    cases hsecond with
    | taken hput' =>
      obtain ⟨s₁', hput', hput⟩ := h.swap hput hput'
      exact ⟨s₁', .taken hput', .taken hput⟩
    | passed hnone hv => exact ⟨s, .passed (h.put?_eq_none hnone s) hv, .taken hput⟩
  | passed hnone hv =>
    cases hsecond with
    | taken hput' => exact ⟨s₂, .taken hput', .passed (h.put?_eq_none hnone s₂) hv⟩
    | passed hnone' hv' => exact ⟨s, .passed hnone' hv', .passed hnone hv⟩

/-- Members may come in any order. -/
theorem absorb_perm (h : fields.Orderly names) {members members' : List (Option String × Json)}
    (hperm : members.Perm members') {s s' : σ} (habsorb : fields.absorb s members = .ok s') :
    fields.absorb s members' = .ok s' := by
  induction hperm generalizing s with
  | nil => exact habsorb
  | cons member _ ih =>
    obtain ⟨t, hmember, hrest⟩ := absorb_cons_eq_ok.1 habsorb
    exact absorb_cons_eq_ok.2 ⟨t, hmember, ih hrest⟩
  -- Neighbours can be exchanged, and every order comes of that.
  | swap member member' members =>
    obtain ⟨t, hmember, hrest⟩ := absorb_cons_eq_ok.1 habsorb
    obtain ⟨u, hmember', hrest⟩ := absorb_cons_eq_ok.1 hrest
    obtain ⟨t', hmember', hmember⟩ := h.accepts_swap hmember hmember'
    exact absorb_cons_eq_ok.2 ⟨t', hmember', absorb_cons_eq_ok.2 ⟨u, hmember, hrest⟩⟩
  | trans _ _ ih ih' => exact ih' (ih habsorb)

/-- A member that is no field may come in anywhere. -/
theorem absorb_insert (h : fields.Orderly names) {before after : List (Option String × Json)}
    {name : String} {v : Json} (hname : names.lookup name = none) (hv : v.isWhole = true)
    {s s' : σ} (habsorb : fields.absorb s (before ++ after) = .ok s') :
    fields.absorb s (before ++ (some name, v) :: after) = .ok s' := by
  obtain ⟨t, hbefore, hafter⟩ := absorb_append_eq_ok.1 habsorb
  have haccepts : fields.Accepts t (some name, v) t :=
    .passed ((h.put?_eq_none_iff name v t).2 hname) hv
  exact absorb_append_eq_ok.2 ⟨t, hbefore, absorb_cons_eq_ok.2 ⟨t, haccepts, hafter⟩⟩

/-- The value of a field may be replaced by one that is read alike. -/
theorem exists_reader_of_absorb (h : fields.Orderly names)
    {before after : List (Option String × Json)} {name : String} {v : Json} {shape : Shape}
    (hname : names.lookup name = some shape) {s s' : σ}
    (habsorb : fields.absorb s (before ++ (some name, v) :: after) = .ok s') :
    ∃ (β : Type) (read : Reader β) (b : β), read.Tolerates shape ∧ read v = .ok b ∧
      ∀ w, read w = .ok b → fields.absorb s (before ++ (some name, w) :: after) = .ok s' := by
  obtain ⟨t, hbefore, hrest⟩ := absorb_append_eq_ok.1 habsorb
  obtain ⟨u, hmember, hafter⟩ := absorb_cons_eq_ok.1 hrest
  -- A name that is known is not passed by.
  cases hmember with
  | passed hnone =>
    rw [h.put?_eq_none_iff, hname] at hnone
    cases hnone
  | taken hput =>
    obtain ⟨β, read, shape', b, hname', htolerates, hread, hagain⟩ := h.exists_reader hput
    obtain rfl : shape = shape' := Option.some.inj (hname.symm.trans hname')
    refine ⟨β, read, b, htolerates, hread, ?_⟩
    intro w hw
    exact absorb_append_eq_ok.2 ⟨t, hbefore, absorb_cons_eq_ok.2 ⟨u, .taken (hagain w hw), hafter⟩⟩

end Orderly

/-- Members that are absorbed have names that can be read. -/
theorem isSome_of_absorb {members : List (Option String × Json)} {s s' : σ}
    (h : fields.absorb s members = .ok s') : ∀ member ∈ members, member.1.isSome = true := by
  induction members generalizing s with
  | nil => simp
  | cons member members ih =>
    obtain ⟨t, hmember, hrest⟩ := absorb_cons_eq_ok.1 h
    refine List.forall_mem_cons.2 ⟨?_, ih hrest⟩
    cases hmember <;> rfl

/-! ### Records -/

/-- An object is decoded by absorbing its members. -/
theorem decode_objectText_eq_ok {b : Margins} {ms : List MemberText} {record : String} {a : α} :
    decode (fields.read record) (objectText b ms) = .ok a
      ↔ ∃ s, fields.absorb fields.start (ms.map MemberText.entry) = .ok s ∧
        fields.finish s = .ok a := by
  rw [objectText, decode_text]
  exact bind_eq_ok

theorem mismatch_ne_ok {expected : Expected} {v : Json} {a : α} :
    mismatch expected v ≠ .ok a := by
  intro h
  obtain ⟨f, -, hf⟩ := bind_eq_ok.1 h
  cases hf

/-- A record is read from an object or an array. -/
theorem eq_array_or_eq_object_of_read {record : String} {v : Json} {a : α}
    (h : fields.read record v = .ok a) :
    (∃ items closed, v = .array items closed) ∨ ∃ members closed s, v = .object members closed ∧
      fields.absorb fields.start members = .ok s := by
  cases v with
  | array items closed => exact .inl ⟨items, closed, rfl⟩
  | object members closed =>
    obtain ⟨s, habsorb, -⟩ := bind_eq_ok.1 h
    exact .inr ⟨members, closed, s, rfl, habsorb⟩
  | _ => exact absurd h mismatch_ne_ok

/-- A record whose fields may come in any order is read from rearranged texts alike. -/
theorem Orderly.tolerates_read (h : fields.Orderly names) (record : String) :
    (fields.read record).Tolerates (.record names) where
  decode_rearranged {x y a} hx hxy := by
    cases hxy with
    | permute b hperm =>
      obtain ⟨s, habsorb, hfinish⟩ := decode_objectText_eq_ok.1 hx
      have habsorb' := h.absorb_perm (hperm.map MemberText.entry) habsorb
      exact decode_objectText_eq_ok.2 ⟨s, habsorb', hfinish⟩
    | @insert _ b before after m hm =>
      obtain ⟨s, habsorb, hfinish⟩ := decode_objectText_eq_ok.1 hx
      refine decode_objectText_eq_ok.2 ⟨s, ?_, hfinish⟩
      rw [List.map_append] at habsorb
      rw [List.map_append, List.map_cons]
      exact h.absorb_insert hm m.value.isWhole_tree habsorb
    | @within _ b before after m shape v hm hv =>
      obtain ⟨s, habsorb, hfinish⟩ := decode_objectText_eq_ok.1 hx
      refine decode_objectText_eq_ok.2 ⟨s, ?_, hfinish⟩
      rw [List.map_append, List.map_cons] at habsorb ⊢
      -- The field's own reader reads the rearranged value alike.
      obtain ⟨β, read, b, htolerates, hread, hagain⟩ := h.exists_reader_of_absorb hm habsorb
      have hdecode : decode read v.text = .ok b :=
        htolerates.decode_rearranged ((decode_text read m.value).trans hread) hv
      exact hagain v.tree ((decode_text read v).symm.trans hdecode)
    | respace hscan => rwa [← decode_respaced _ hscan]
  isLaidOut {x a} hx := by
    obtain ⟨v, rfl, hread⟩ := exists_valueText hx
    -- An array has no names to arrange, and an object is laid out if its members are.
    rcases eq_array_or_eq_object_of_read hread with
      ⟨items, closed, htree⟩ | ⟨members, closed, s, htree, habsorb⟩
    · exact .array htree
    · obtain ⟨b, ms, rfl⟩ := ValueText.exists_eq_object htree (isSome_of_absorb habsorb)
      obtain ⟨rfl, rfl⟩ := Json.object.inj htree
      refine .object b ?_
      intro m hm shape hshape
      obtain ⟨before, after, rfl⟩ := List.append_of_mem hm
      rw [List.map_append, List.map_cons] at habsorb
      obtain ⟨β, read, b, htolerates, hread, -⟩ := h.exists_reader_of_absorb hshape habsorb
      exact htolerates.isLaidOut ((decode_text read m.value).trans hread)

end Fields

end TactilePad.Json
