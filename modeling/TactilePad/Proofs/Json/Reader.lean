import TactilePad.Json.Config
import TactilePad.Proofs.Json.Document

/-!
# Reading what was written

* `decode_render`: decoding the text of a plain tree is reading the tree.
* `readUnsigned_natural`: a number within range is read back.
* `Fields.Restores.read_record`: a record is read back from its fields in order.

How a record is read back goes by its list of fields.  The first field takes the member of its name
(`Fields.restores_one`) and leaves those of the other fields, whose names are different, to the
fields behind it (`Fields.Restores.cons`).
-/

namespace TactilePad.Json

/-- The text of a plain tree is decoded as the tree is read: reading is all that can fail. -/
theorem decode_render {α : Type} (read : Reader α) {v : Json} (h : v.IsPlain) :
    decode read v.render = read v := by
  have hdocument : Document.ofChars v.render.toList = ⟨v, true⟩ := by
    rw [render, String.toList_ofList]
    exact Document.ofChars_chars h
  rw [decode, decodeChars, hdocument]
  cases read v <;> rfl

/-! ### Plain trees -/

theorem isPlain_natural (n : Nat) : (natural n).IsPlain :=
  Numeral.isInteger_ofNat n

theorem isPlain_record {fields : List (String × Json)} (h : ∀ field ∈ fields, field.2.IsPlain) :
    (record fields).IsPlain := by
  refine ⟨rfl, ?_⟩
  induction fields with
  | nil => trivial
  | cons field fields ih =>
    have hfields := ih fun field' hfield => h field' (List.mem_cons_of_mem _ hfield)
    exact ⟨rfl, h field List.mem_cons_self, hfields⟩

/-! ### Scalars -/

theorem readBool_bool (b : Bool) : readBool (.bool b) = .ok b := by
  rfl

/-- A list of digits stands for no less than what its front stands for. -/
theorem le_foldl_digits (ds : List Nat) (n : Nat) :
    n ≤ ds.foldl (fun n d => n * 10 + d) n := by
  induction ds generalizing n with
  | nil => exact Nat.le_refl n
  | cons d ds ih =>
    have hle := ih (n * 10 + d)
    rw [List.foldl_cons]
    omega

/-- No digit is left of a number that fits. -/
theorem Numeral.accumulate_eq {ds : List Nat} {n : Nat}
    (h : ds.foldl (fun n d => n * 10 + d) n < UInt64.size) :
    accumulate n ds = (ds.foldl (fun n d => n * 10 + d) n, []) := by
  induction ds generalizing n with
  | nil => rfl
  | cons d ds ih =>
    rw [List.foldl_cons] at h ⊢
    have hle := le_foldl_digits ds (n * 10 + d)
    rw [accumulate, if_pos (by omega), ih h]

/-- A numeral of 64 bits stands for its number. -/
theorem Numeral.toInt?_ofNat {n : Nat} (h : n < UInt64.size) :
    (ofNat n).toInt? = some (n : Int) := by
  have hdigits : (Text.digits n).foldl (fun n d => n * 10 + d) 0 = n := Text.ofDigits_digits n
  have haccumulate : accumulate 0 (ofNat n).whole = (n, []) := by
    have hfits : (Text.digits n).foldl (fun n d => n * 10 + d) 0 < UInt64.size := by
      rwa [hdigits]
    have heq := accumulate_eq hfits
    rwa [hdigits] at heq
  rw [toInt?, haccumulate]
  rfl

/-- A number within the range of the reader is read back. -/
theorem readUnsigned_natural {α : Type} {values n : Nat} (ofNat : Nat → α) (expected : Expected)
    (hvalues : values ≤ UInt64.size) (hn : n < values) :
    readUnsigned values ofNat expected (natural n) = .ok (ofNat n) := by
  have hint : (Numeral.ofNat n).toInt? = some (n : Int) := Numeral.toInt?_ofNat (by omega)
  simp only [natural, readUnsigned, hint]
  rw [if_pos (by omega), Int.toNat_natCast]

theorem readByte_natural (b : UInt8) : readByte (natural b.toNat) = .ok b := by
  rw [readByte, readUnsigned_natural _ _ (by decide) b.toNat_lt, UInt8.ofNat_toNat]

theorem readWord_natural (w : UInt16) : readWord (natural w.toNat) = .ok w := by
  rw [readWord, readUnsigned_natural _ _ (by decide) w.toNat_lt, UInt16.ofNat_toNat]

/-! ### Records -/

namespace Fields

variable {σ τ α β : Type}

/-- The fields take their values from the given members, read one after another. -/
def Restores (fields : Fields σ α) (members : List (String × Json)) (a : α) : Prop :=
  ∃ s, fields.absorb fields.start (members.map fun (name, value) => (some name, value)) = .ok s ∧
    fields.finish s = .ok a

/-- A record whose fields are restored is read back. -/
theorem Restores.read_record {fields : Fields σ α} {members : List (String × Json)} {a : α}
    (h : fields.Restores members a) (name : String) :
    fields.read name (record members) = .ok a := by
  obtain ⟨s, habsorb, hfinish⟩ := h
  rw [record, read, habsorb]
  exact hfinish

/-- A field whose value is read back is restored. -/
theorem restores_one {read : Reader α} {v : Json} {a : α} (h : read v = .ok a) (name : String) :
    (one name read).Restores [(name, v)] a := by
  refine ⟨some a, ?_, rfl⟩
  have hput : (one name read).put? name v none = some (.ok (some a)) := by
    simp [one, h, Except.map]
  show absorb _ none [(some name, v)] = _
  rw [absorb, hput]
  rfl

/-- Members with other names than that of the first field are left to the fields behind it. -/
theorem absorb_both_one (name : String) (read : Reader α) (fields : Fields τ β) (seen? : Option α)
    (t : τ) {members : List (Option String × Json)} (h : ∀ member ∈ members, member.1 ≠ some name) :
    ((one name read).both fields).absorb (seen?, t) members
      = (fields.absorb t members).map fun t => (seen?, t) := by
  induction members generalizing t with
  | nil => rfl
  | cons member members ih =>
    obtain ⟨name'?, v⟩ := member
    have hmembers : ∀ member ∈ members, member.1 ≠ some name := by
      intro member hmember
      exact h member (List.mem_cons_of_mem _ hmember)
    -- A name that cannot be read is an error with the field and without it.
    cases name'? with
    | none => rfl
    | some name' =>
      have hname : name' ≠ name := by
        rintro rfl
        exact h (some name', v) List.mem_cons_self rfl
      have hput : ((one name read).both fields).put? name' v (seen?, t)
          = (fields.put? name' v t).map fun r => r.map fun t => (seen?, t) := by
        simp [both, one, hname]
      rw [absorb, absorb, hput]
      -- The member is left to the other fields, whatever they make of it.
      cases fields.put? name' v t with
      | none =>
        simp only [Option.map_none]
        split
        · exact ih t hmembers
        · rfl
      | some r =>
        cases r with
        | error e => rfl
        | ok t => exact ih t hmembers

/-- One more field in front is restored with the others, if none of them has its name. -/
theorem Restores.cons {read : Reader α} {v : Json} {a : α} {fields : Fields τ β}
    {members : List (String × Json)} {b : β} {name : String} (hv : read v = .ok a)
    (hname : name ∉ members.map Prod.fst) (h : fields.Restores members b) :
    ((one name read).both fields).Restores ((name, v) :: members) (a, b) := by
  obtain ⟨t, habsorb, hfinish⟩ := h
  refine ⟨(some a, t), ?_, ?_⟩
  · have hput : ((one name read).both fields).put? name v (none, fields.start)
        = some (.ok (some a, fields.start)) := by
      simp [both, one, hv, Except.map]
    -- The other members do not have the name of the new field.
    have hothers : ∀ member ∈ members.map fun (name, value) => (some name, value),
        member.1 ≠ some name := by
      intro member hmember heq
      obtain ⟨⟨name', value⟩, hmem, rfl⟩ := List.mem_map.mp hmember
      obtain rfl : name' = name := Option.some.inj heq
      exact hname (List.mem_map_of_mem hmem)
    show absorb _ (none, fields.start) ((some name, v) :: _) = _
    rw [absorb, hput]
    show absorb _ (some a, fields.start) _ = _
    rw [absorb_both_one name read fields (some a) fields.start hothers, habsorb]
    rfl
  · simp [both, one, hfinish, Except.bind, Except.map]

end Fields

end TactilePad.Json
