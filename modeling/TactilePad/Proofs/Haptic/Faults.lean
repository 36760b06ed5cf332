import TactilePad.Proofs.Haptic.Runs

/-!
# Faults in the histories of the haptic driver

* `fault?`, `Faultless` and `firstFault`: the register accesses and the drives of the enable line
  that fail.
* `StopsAtFault`: the first fault is the last exchange of a history, and the answer.
* `FailFast`: a program that stops so whatever is answered.  Programs in a row do (`failFast_bind`),
  and with them lists of writes and calibrations (`failFast_runCalibration`).

What is done after a fault all the same, by a switch and at the end of a calibration, is not part of
such a program.
-/

namespace TactilePad.Haptic

variable {α β : Type} {t u : List (Exchange Peripheral)} {result : Except DriverError α}

/-! ### Faults of single exchanges -/

/-- The fault of an access that failed. -/
def fault? : Exchange Peripheral → Option BusFault
  | ⟨.drive _, .error fault⟩ => some fault
  | ⟨.read _, .error fault⟩ => some fault
  | ⟨.write _ _, .error fault⟩ => some fault
  | _ => none

/-- Nothing failed. -/
def Faultless (t : List (Exchange Peripheral)) : Prop :=
  ∀ e ∈ t, fault? e = none

/-- The fault of the first access that failed. -/
def firstFault (t : List (Exchange Peripheral)) : Option BusFault :=
  t.findSome? fault?

@[simp] theorem faultless_nil : Faultless [] := by
  simp [Faultless]

@[simp] theorem faultless_cons {e : Exchange Peripheral} :
    Faultless (e :: t) ↔ fault? e = none ∧ Faultless t := by
  simp [Faultless]

@[simp] theorem faultless_append : Faultless (t ++ u) ↔ Faultless t ∧ Faultless u := by
  simp [Faultless, or_imp, forall_and]

theorem firstFault_eq_none_iff : firstFault t = none ↔ Faultless t := by
  simp [firstFault, Faultless]

/-- Faultless beginnings are passed over. -/
theorem firstFault_append (ht : Faultless t) : firstFault (t ++ u) = firstFault u := by
  have hnone : t.findSome? fault? = none := firstFault_eq_none_iff.mpr ht
  simp [firstFault, hnone]

/-- What comes after a fault does not change which one was first. -/
theorem firstFault_append_cons {e : Exchange Peripheral} {fault : BusFault} (ht : Faultless t)
    (he : fault? e = some fault) (u : List (Exchange Peripheral)) :
    firstFault (t ++ e :: u) = some fault := by
  rw [firstFault_append ht, firstFault, List.findSome?_cons, he]

/-! ### Histories that end with their first fault -/

/-- The first fault ends everything and is what is answered; without a fault, none is answered. -/
inductive StopsAtFault : List (Exchange Peripheral) → Except DriverError α → Prop
  | faultless {t : List (Exchange Peripheral)} {result : Except DriverError α} (ht : Faultless t)
    (hr : ∀ fault, result ≠ .error (.bus fault)) : StopsAtFault t result
  | faulted {done : List (Exchange Peripheral)} {e : Exchange Peripheral} {fault : BusFault}
    (hdone : Faultless done) (he : fault? e = some fault) :
    StopsAtFault (done ++ [e]) (.error (.bus fault))

namespace StopsAtFault

/-- A value ends a history in which nothing failed. -/
theorem of_ok (ht : Faultless t) (a : α) : StopsAtFault t (.ok a) := by
  refine .faultless ht fun fault hfault => ?_
  exact nomatch hfault

/-- An answer that is no bus fault tells that nothing failed. -/
theorem faultless_of_ne (h : StopsAtFault t result) (hr : ∀ fault, result ≠ .error (.bus fault)) :
    Faultless t := by
  cases h with
  | faultless ht _ => exact ht
  | faulted hdone he => exact absurd rfl (hr _)

theorem faultless_of_ok {a : α} (h : StopsAtFault t (.ok a)) : Faultless t := by
  apply h.faultless_of_ne
  intro fault hfault
  exact nomatch hfault

/-- A bus fault that is answered was that of the last exchange. -/
theorem exists_of_bus {fault : BusFault}
    (h : StopsAtFault t (.error (.bus fault) : Except DriverError α)) :
    ∃ done e, t = done ++ [e] ∧ Faultless done ∧ fault? e = some fault := by
  generalize hresult : (.error (.bus fault) : Except DriverError α) = result at h
  cases h with
  | faultless _ hr => exact absurd hresult.symm (hr fault)
  | faulted hdone he =>
    obtain rfl : fault = _ := DriverError.bus.inj (Except.error.inj hresult)
    exact ⟨_, _, rfl, hdone, he⟩

/-- The fault that is answered is the first one, whatever comes after it. -/
theorem firstFault_append {fault : BusFault}
    (h : StopsAtFault t (.error (.bus fault) : Except DriverError α))
    (u : List (Exchange Peripheral)) : firstFault (t ++ u) = some fault := by
  obtain ⟨done, e, rfl, hdone, he⟩ := h.exists_of_bus
  rw [List.append_assoc]
  exact firstFault_append_cons hdone he u

/-- Where a history that stops at its fault comes to a fault, nothing follows. -/
theorem eq_nil_of_fault (h : StopsAtFault t result) {before after : List (Exchange Peripheral)}
    {e : Exchange Peripheral} (ht : t = before ++ e :: after) (he : fault? e ≠ none) :
    after = [] := by
  cases h with
  | faultless hfaultless _ =>
    have hmem : e ∈ t := by simp [ht]
    exact absurd (hfaultless e hmem) he
  | @faulted done e' fault hdone he' =>
    -- Before the last exchange there is no fault.
    -- Were there a last exchange behind it, `e` would be one of those before the end.
    rcases List.eq_nil_or_concat after with rfl | ⟨rest, last, rfl⟩
    · rfl
    · have hsplit : done ++ [e'] = (before ++ e :: rest) ++ [last] := by
        rw [ht, List.concat_eq_append, List.append_assoc, List.cons_append]
      obtain ⟨rfl, -⟩ := List.append_inj' hsplit rfl
      exact absurd (hdone e (by simp)) he

/-- What stops at its fault may come after anything in which nothing failed. -/
theorem append (ht : Faultless t) (h : StopsAtFault u result) : StopsAtFault (t ++ u) result := by
  cases h with
  | faultless hu hr => exact .faultless (faultless_append.mpr ⟨ht, hu⟩) hr
  | faulted hdone he =>
    rw [← List.append_assoc]
    exact .faulted (faultless_append.mpr ⟨ht, hdone⟩) he

/-- A value is no fault, whatever is made of it. -/
theorem map (h : StopsAtFault t result) (f : α → β) : StopsAtFault t (result.map f) := by
  cases h with
  | faultless ht hr =>
    refine .faultless ht fun fault hfault => ?_
    cases result with
    | error error => exact hr fault (by rw [Except.error.inj hfault])
    | ok a => exact nomatch hfault
  | faulted hdone he => exact .faulted hdone he

end StopsAtFault

/-! ### Programs that end with their first fault -/

/-- Whatever is answered, the first fault ends the program and is its error. -/
def FailFast (p : Attempt Peripheral α) : Prop :=
  ∀ t result, p.run.Yields t result → StopsAtFault t result

theorem failFast_pure (a : α) : FailFast (pure a : Attempt Peripheral α) := by
  intro t result h
  obtain ⟨rfl, rfl⟩ := Attempt.yields_pure.mp h
  exact .of_ok faultless_nil a

theorem failFast_ofExcept {x : Except DriverError α} (hx : ∀ fault, x ≠ .error (.bus fault)) :
    FailFast (Attempt.ofExcept x) := by
  intro t result h
  obtain ⟨rfl, rfl⟩ := Attempt.yields_ofExcept.mp h
  exact .faultless faultless_nil hx

/-- An error of the driver's own stops it without a fault. -/
theorem failFast_throw {error : DriverError} (herror : ∀ fault, error ≠ .bus fault) :
    FailFast (throw error : Attempt Peripheral α) := by
  intro t result h
  obtain ⟨rfl, rfl⟩ := Attempt.yields_throw.mp h
  exact .faultless faultless_nil fun fault hfault => herror fault (Except.error.inj hfault)

/-- An error of the first program ends both, and a value of it tells that nothing failed so far. -/
theorem failFast_bind {p : Attempt Peripheral α} {f : α → Attempt Peripheral β} (hp : FailFast p)
    (hf : ∀ a, FailFast (f a)) : FailFast (p >>= f) := by
  intro t result h
  rcases Attempt.yields_bind.mp h with ⟨error, herror, rfl⟩ | ⟨a, t₁, t₂, rfl, hvalue, hrest⟩
  · -- An error of the first part ends both, a fault or not.
    cases hp t _ herror with
    | faultless ht hr =>
      refine .faultless ht fun fault hfault => hr fault ?_
      rw [Except.error.inj hfault]
    | faulted hdone he => exact .faulted hdone he
  · exact .append (hp t₁ _ hvalue).faultless_of_ok (hf a t₂ result hrest)

/-- An access is asked for once, and its fault is the error. -/
theorem failFast_checked {p : Program Peripheral (Except BusFault α)}
    (exchange : Except BusFault α → Exchange Peripheral)
    (hp : ∀ t x, p.Yields t x → t = [exchange x]) (hok : ∀ a, fault? (exchange (.ok a)) = none)
    (hfault : ∀ fault, fault? (exchange (.error fault)) = some fault) : FailFast (checked p) := by
  intro t result h
  obtain ⟨x, hx, rfl⟩ := yields_checked.mp h
  rw [hp t x hx]
  cases x with
  | ok a => exact .of_ok (by simp [hok]) a
  | error fault => exact StopsAtFault.append faultless_nil (.faulted faultless_nil (hfault fault))

theorem failFast_write (register value : UInt8) : FailFast (write register value) :=
  failFast_checked (fun x => ⟨.write register value, x⟩)
    (fun _ _ h => Program.yields_request.mp h) (fun _ => rfl) (fun _ => rfl)

theorem failFast_read (register : UInt8) : FailFast (read register) :=
  failFast_checked (fun x => ⟨.read register, x⟩)
    (fun _ _ h => Program.yields_request.mp h) (fun _ => rfl) (fun _ => rfl)

theorem failFast_delay (milliseconds : Nat) : FailFast (delay milliseconds) := by
  intro t result h
  obtain ⟨rfl, rfl⟩ := yields_delay.mp h
  exact .of_ok (by simp [fault?]) ()

theorem failFast_writeAll (ws : List (UInt8 × UInt8)) : FailFast (writeAll ws) := by
  induction ws with
  | nil => exact failFast_pure ()
  | cons w ws ih => exact failFast_bind (failFast_write w.1 w.2) fun _ => ih

/-- Each look may fail, and the loop ends by an error of its own where none does. -/
theorem failFast_awaitDone (polls : Nat) : FailFast (awaitDone polls) := by
  induction polls with
  | zero => exact failFast_throw nofun
  | succ polls ih =>
    apply failFast_bind (failFast_delay _)
    intro _
    apply failFast_bind (failFast_read _)
    intro go
    split
    · exact failFast_pure ()
    · exact ih

/-- A calibration has errors of its own, but each of its accesses may be the last. -/
theorem failFast_runCalibration : FailFast runCalibration := by
  apply failFast_bind (failFast_write _ _)
  intro _
  apply failFast_bind (failFast_write _ _)
  intro _
  apply failFast_bind (failFast_awaitDone _)
  intro _
  apply failFast_bind (failFast_read _)
  intro status
  -- Both branches end with these reads; a failed diagnostic throws in front of them.
  have hderive : FailFast (do
      let compensation ← read Register.calibrationCompensation
      let backEmf ← read Register.calibrationBackEmf
      let feedback ← read Register.feedbackControl
      return ({ compensation, backEmf, feedback } : CalibrationResult)) := by
    apply failFast_bind (failFast_read _)
    intro compensation
    apply failFast_bind (failFast_read _)
    intro backEmf
    exact failFast_bind (failFast_read _) fun feedback => failFast_pure _
  split
  · exact failFast_bind (failFast_throw nofun) fun _ => hderive
  · exact hderive

end TactilePad.Haptic
