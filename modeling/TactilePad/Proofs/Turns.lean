/-!
# Taking turns

Some things in a list open a turn and others close it; what does neither is passed over.
`Alternates opens closes o xs o'` says that openings and closings take turns in `xs`, where `o` and
`o'` tell whether a turn is open before and after it.

* `Alternates.countP_eq`: there are as many openings as closings, up to the open turns at the ends;
* `Alternates.closes_once`, `Alternates.opens_once`: between two openings in a row stands exactly
  one closing, and between two closings exactly one opening.
-/

namespace TactilePad

section Turns

variable {β : Type} {opens closes : β → Bool} {o o' o'' : Bool} {x y : β}
  {xs ys before between after : List β}

/-- Whether a turn is open after one more thing; there is no answer to a thing out of turn. -/
def follow (opens closes : β → Bool) (o : Bool) (x : β) : Option Bool :=
  if opens x then if o then none else some true
  else if closes x then if o then some false else none
  else some o

/-- What opens and what closes take turns. -/
def Alternates (opens closes : β → Bool) (o : Bool) (xs : List β) (o' : Bool) : Prop :=
  xs.foldlM (follow opens closes) o = some o'

theorem alternates_nil : Alternates opens closes o [] o := rfl

/-- A step that opens may only stand where nothing is open. -/
theorem alternates_opening (hx : opens x = true) : Alternates opens closes false [x] true := by
  simp [Alternates, follow, hx]

/-- A step that closes may only stand where something is open. -/
theorem alternates_closing (ho : opens x = false) (hc : closes x = true) :
    Alternates opens closes true [x] false := by
  simp [Alternates, follow, ho, hc]

/-- A step that does neither may stand anywhere. -/
theorem alternates_neither (ho : opens x = false) (hc : closes x = false) :
    Alternates opens closes o [x] o := by
  simp [Alternates, follow, ho, hc]

/-- The turns of two lists in a row meet in the middle. -/
theorem alternates_append : Alternates opens closes o (xs ++ ys) o'' ↔
    ∃ o', Alternates opens closes o xs o' ∧ Alternates opens closes o' ys o'' := by
  unfold Alternates
  rw [List.foldlM_append]
  exact Option.bind_eq_some_iff

theorem Alternates.append (hxs : Alternates opens closes o xs o')
    (hys : Alternates opens closes o' ys o'') : Alternates opens closes o (xs ++ ys) o'' :=
  alternates_append.mpr ⟨o', hxs, hys⟩

/-- The turns of a list begin with those of its first step. -/
theorem alternates_cons : Alternates opens closes o (x :: xs) o'' ↔
    ∃ o', Alternates opens closes o [x] o' ∧ Alternates opens closes o' xs o'' := by
  rw [← List.singleton_append, alternates_append]

/-- What one thing does: it opens, it closes, or it is passed over. -/
theorem alternates_singleton : Alternates opens closes o [x] o' ↔
    opens x = true ∧ o = false ∧ o' = true ∨
      opens x = false ∧ closes x = true ∧ o = true ∧ o' = false ∨
      opens x = false ∧ closes x = false ∧ o' = o := by
  simp only [Alternates, List.foldlM_cons, List.foldlM_nil]
  unfold follow
  cases opens x <;> cases closes x <;> cases o <;> cases o' <;> simp

variable (hdisjoint : ∀ x, opens x = true → closes x = false)
include hdisjoint

/-- What closes does not open. -/
theorem opens_eq_false (x : β) (hx : closes x = true) : opens x = false := by
  cases ho : opens x with
  | false => rfl
  | true => exact nomatch hx.symm.trans (hdisjoint x ho)

/-- What opens a turn of the one side closes one of the other. -/
theorem Alternates.swap (h : Alternates opens closes o xs o') :
    Alternates closes opens (!o) xs (!o') := by
  induction xs generalizing o with
  | nil =>
    obtain rfl : o = o' := Option.some.inj h
    rfl
  | cons x xs ih =>
    obtain ⟨o₁, hx, hxs⟩ := alternates_cons.mp h
    refine alternates_cons.mpr ⟨!o₁, ?_, ih hxs⟩
    rcases alternates_singleton.mp hx with ⟨ho, rfl, rfl⟩ | ⟨ho, hc, rfl, rfl⟩ | ⟨ho, hc, rfl⟩
    · exact alternates_closing (hdisjoint x ho) ho
    · exact alternates_opening hc
    · exact alternates_neither hc ho

/-- Openings and closings balance, up to the turns that are open before and after. -/
theorem Alternates.countP_eq (h : Alternates opens closes o xs o') :
    xs.countP opens + o.toNat = xs.countP closes + o'.toNat := by
  induction xs generalizing o with
  | nil =>
    obtain rfl : o = o' := Option.some.inj h
    rfl
  | cons x xs ih =>
    obtain ⟨o₁, hx, hxs⟩ := alternates_cons.mp h
    have hrest := ih hxs
    -- The first step opens, closes, or does neither; each moves both sides alike.
    rcases alternates_singleton.mp hx with ⟨ho, rfl, rfl⟩ | ⟨ho, hc, rfl, rfl⟩ | ⟨ho, hc, rfl⟩
    · have hc := hdisjoint x ho
      simp only [List.countP_cons, ho, hc, Bool.toNat_true, Bool.toNat_false, Bool.false_eq_true,
        if_true, if_false] at hrest ⊢
      omega
    · simp only [List.countP_cons, ho, hc, Bool.toNat_true, Bool.toNat_false, Bool.false_eq_true,
        if_true, if_false] at hrest ⊢
      omega
    · simpa only [List.countP_cons, ho, hc, Bool.false_eq_true, if_false, Nat.add_zero] using hrest

/-- Between an opening and the next one there is exactly one closing. -/
theorem Alternates.closes_once
    (h : Alternates opens closes o (before ++ (x :: between ++ y :: after)) o')
    (hx : opens x = true) (hy : opens y = true) (hbetween : ∀ z ∈ between, opens z = false) :
    between.countP closes = 1 := by
  obtain ⟨o₁, -, h⟩ := alternates_append.mp h
  obtain ⟨o₂, hfirst, h⟩ := alternates_cons.mp h
  obtain ⟨o₃, hmiddle, h⟩ := alternates_append.mp h
  obtain ⟨o₄, hlast, -⟩ := alternates_cons.mp h
  have hcount := hmiddle.countP_eq hdisjoint
  have hnone : between.countP opens = 0 :=
    List.countP_eq_zero.mpr fun z hz => by simp [hbetween z hz]
  obtain ⟨-, -, rfl⟩ := (alternates_singleton.mp hfirst).resolve_right (by simp [hx])
  obtain ⟨-, rfl, -⟩ := (alternates_singleton.mp hlast).resolve_right (by simp [hy])
  -- Open after `x` and closed before `y`, with no opening between them.
  simp only [hnone, Bool.toNat_true, Bool.toNat_false] at hcount
  omega

/-- Between a closing and the next one there is exactly one opening. -/
theorem Alternates.opens_once
    (h : Alternates opens closes o (before ++ (x :: between ++ y :: after)) o')
    (hx : closes x = true) (hy : closes y = true) (hbetween : ∀ z ∈ between, closes z = false) :
    between.countP opens = 1 := by
  exact (h.swap hdisjoint).closes_once (opens_eq_false hdisjoint) hx hy hbetween

end Turns

end TactilePad
