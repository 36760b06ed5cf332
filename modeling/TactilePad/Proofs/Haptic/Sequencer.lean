import TactilePad.Proofs.Haptic.Runs

/-!
# The sequencer program that playback leaves in the chip

* `sequencer_of_play`: a play operation that succeeds leaves in the sequencer exactly the ids that
  were asked for, cut at the first `stop`, whatever the registers held and whatever was done to them
  before; and no play operation attempts to start playback before that is so.

The registers are read off the history (`registersAfter`).  What a play operation writes need not
fill all eight slots: it is enough that what it does not fill stands behind a `stop`
(`Fills.audible_sequencer`).
-/

namespace TactilePad.Haptic

variable {h h' : Haptic} {u : List (Exchange Peripheral)} {ids values : List UInt8}

/-! ### The register file -/

/-- The contents of the registers, by address. -/
abbrev Registers : Type :=
  UInt8 → UInt8

/-- A write takes effect exactly when it succeeds. -/
def store (regs : Registers) : Exchange Peripheral → Registers
  | ⟨.write register value, .ok ()⟩ => fun r => if r = register then value else regs r
  | _ => regs

/-- The registers after a history that found them as `regs`. -/
def registersAfter (regs : Registers) (t : List (Exchange Peripheral)) : Registers :=
  t.foldl store regs

theorem registersAfter_append (regs : Registers) (t u : List (Exchange Peripheral)) :
    registersAfter regs (t ++ u) = registersAfter (registersAfter regs t) u :=
  List.foldl_append

/-- Only a write of a register changes it. -/
theorem store_of_not_write (regs : Registers) {e : Exchange Peripheral} {register : UInt8}
    (he : ∀ value, e.request ≠ .write register value) : store regs e register = regs register := by
  obtain ⟨r, x⟩ := e
  cases r with
  | write register' value =>
    cases x with
    | error fault => rfl
    | ok _ =>
      refine if_neg fun hr => ?_
      rw [hr] at he
      exact he value rfl
  | _ => rfl

/-- A register that is not written keeps its contents. -/
theorem registersAfter_of_not_written (regs : Registers) {t : List (Exchange Peripheral)}
    {register : UInt8} (ht : ∀ e ∈ t, ∀ value, e.request ≠ .write register value) :
    registersAfter regs t register = regs register := by
  induction t generalizing regs with
  | nil => rfl
  | cons e t ih =>
    rw [List.forall_mem_cons] at ht
    exact (ih (store regs e) ht.2).trans (store_of_not_write regs ht.1)

/-! ### Consecutive registers -/

/-- The contents of so many consecutive registers. -/
def window (regs : Registers) : UInt8 → Nat → List UInt8
  | _, 0 => []
  | register, n + 1 => regs register :: window regs (register + 1) n

theorem length_window (regs : Registers) (register : UInt8) (n : Nat) :
    (window regs register n).length = n := by
  induction n generalizing register with
  | zero => rfl
  | succ n ih => rw [window, List.length_cons, ih]

/-- The contents of the sequencer slots. -/
def sequencer (regs : Registers) : List UInt8 :=
  window regs Register.sequence1 sequenceSlots

/-- Values written into consecutive registers stand there one after another, followed by whatever
the next registers hold. -/
theorem window_registersAfter_consecutive (regs : Registers) {register : UInt8} (k : Nat)
    (hbound : register.toNat + values.length < 256) :
    ∃ rest, rest.length = k ∧
      window (registersAfter regs ((consecutive register values).map accepted)) register
        (values.length + k) = values ++ rest := by
  -- The first write is done with, so the induction is on the registers after it.
  induction values generalizing regs register with
  | nil =>
    rw [List.length_nil, Nat.zero_add]
    exact ⟨window regs register k, length_window regs register k, rfl⟩
  | cons value values ih =>
    rw [List.length_cons] at hbound
    have hnext : (register + 1).toNat = register.toNat + 1 := toNat_add_one_of_lt (by omega)
    have hrest : (register + 1).toNat + values.length < 256 := by omega
    obtain ⟨rest, hlength, hwindow⟩ := ih (store regs (accepted (register, value))) hrest
    -- The later writes go to higher addresses, so the first value stays.
    have hfirst : registersAfter (store regs (accepted (register, value)))
        ((consecutive (register + 1) values).map accepted) register = value := by
      refine (registersAfter_of_not_written _ fun e he value' hwrite => ?_).trans (if_pos rfl)
      obtain ⟨w, hw, rfl⟩ := List.mem_map.mp he
      have hb := toNat_bounds_of_mem_consecutive hrest hw
      rw [(Request.write.inj hwrite).1] at hb
      omega
    refine ⟨rest, hlength, ?_⟩
    rw [List.length_cons, Nat.add_right_comm]
    exact List.cons_eq_cons.mpr ⟨hfirst, hwindow⟩

/-! ### What the chip plays -/

theorem audible_cons (value : UInt8) (values : List UInt8) :
    audible (value :: values) = if value = Waveform.stop then [] else value :: audible values := by
  rw [audible, List.takeWhile_cons]
  by_cases hv : value = Waveform.stop
  · rw [if_pos hv, if_neg (mt bne_iff_ne.mp (not_not_intro hv))]
  · rw [if_neg hv, if_pos (bne_iff_ne.mpr hv)]
    rfl

/-- What comes after a stop is not heard. -/
theorem audible_append_of_stop_mem (hstop : Waveform.stop ∈ values) (rest : List UInt8) :
    audible (values ++ rest) = audible values := by
  induction values with
  | nil => exact absurd hstop List.not_mem_nil
  | cons value values ih =>
    rw [List.cons_append, audible_cons, audible_cons]
    by_cases hv : value = Waveform.stop
    · rw [if_pos hv, if_pos hv]
    · rw [ih ((List.mem_cons.mp hstop).resolve_left (Ne.symm hv))]

/-- Stops behind the last id are not heard. -/
theorem audible_append_replicate_stop (ids : List UInt8) (n : Nat) :
    audible (ids ++ List.replicate n Waveform.stop) = audible ids := by
  induction ids with
  | nil => cases n <;> rfl
  | cons id ids ih => rw [List.cons_append, audible_cons, audible_cons, ih]

/-- Slot values that make the chip play the ids: padded with `stop`, and with no way past them. -/
structure Fills (values ids : List UInt8) : Prop where
  padded : ∃ n, values = ids ++ List.replicate n Waveform.stop
  length_le : values.length ≤ sequenceSlots
  closed : Waveform.stop ∈ values ∨ values.length = sequenceSlots

/-- Values that fill the sequencer with ids sound as the ids do. -/
theorem Fills.audible_eq (hv : Fills values ids) : audible values = audible ids := by
  obtain ⟨n, rfl⟩ := hv.padded
  exact audible_append_replicate_stop ids n

/-- Whatever the registers held, once such values are written the chip plays the ids. -/
theorem Fills.audible_sequencer (hv : Fills values ids) (regs : Registers) :
    audible (sequencer
      (registersAfter regs ((consecutive Register.sequence1 values).map accepted))) =
      audible ids := by
  have hslots : values.length ≤ 8 := hv.length_le
  have hfirst : Register.sequence1.toNat = 4 := rfl
  obtain ⟨rest, hlength, hwindow⟩ :=
    window_registersAfter_consecutive regs (sequenceSlots - values.length)
      (show Register.sequence1.toNat + values.length < 256 by omega)
  rw [Nat.add_sub_cancel' hv.length_le] at hwindow
  rw [sequencer, hwindow, ← hv.audible_eq]
  -- Old values may follow the ids, but only behind a stop.
  rcases hv.closed with hstop | hfull
  · exact audible_append_of_stop_mem hstop rest
  · rw [hfull, Nat.sub_self] at hlength
    rw [List.eq_nil_of_length_eq_zero hlength, List.append_nil]

theorem WaveformSequence.ids_of_ofIds {s : WaveformSequence} (hs : ofIds ids = .ok s) :
    s.ids = ids := by
  rw [ofIds] at hs
  split at hs
  · exact nomatch hs
  · split at hs
    · rw [← Except.ok.inj hs]
    · exact nomatch hs

/-- The eight slots of a sequence are closed by a stop, or there is no slot left. -/
theorem WaveformSequence.fills (s : WaveformSequence) : Fills s.slots s.ids :=
  ⟨⟨_, rfl⟩, Nat.le_of_eq s.length_slots, Or.inr s.length_slots⟩

/-! ### Play operations -/

/-- The ids that a play operation asks for. -/
def Operation.requested? : Operation → Option (List UInt8)
  | .playWaveform id => some [id]
  | .playSequence ids => some ids
  | .play s => some s.ids
  | .setEnabled _ | .managePower _ | .stop | .calibrate | .status => none

/-- The values that a play operation writes into the slots. -/
def Operation.slotValues : Operation → List UInt8
  | .playWaveform id => [id, Waveform.stop]
  | .playSequence ids => ids ++ List.replicate (sequenceSlots - ids.length) Waveform.stop
  | .play s => s.slots
  | .setEnabled _ | .managePower _ | .stop | .calibrate | .status => []

/-- The writes of the slot values of an operation, all of them accepted. -/
def Operation.slotHistory (op : Operation) : List (Exchange Peripheral) :=
  (consecutive Register.sequence1 op.slotValues).map accepted

/-- The slots are filled, and then playback is started; if a slot write fails, it is not. -/
theorem yields_playback {result : Except DriverError Unit}
    (ht : (writeAll (playbackWrites values)).run.Yields u result) :
    ((∃ error, result = .error error) ∧
      ∀ e ∈ u, ∃ w ∈ consecutive Register.sequence1 values, e.request = .write w.1 w.2) ∨
    ∃ x, u = (consecutive Register.sequence1 values).map accepted ++
        [⟨.write Register.go goBit, x⟩] ∧ result = x.mapError .bus := by
  rw [playbackWrites, writeAll_append, writeAll_singleton] at ht
  -- The slots are cut by a fault, or all of them are written and the go register is next.
  rcases Attempt.yields_bind.mp ht with ⟨error, hslots, rfl⟩ | ⟨⟨⟩, t₁, t₂, rfl, hslots, hgo⟩
  · refine Or.inl ⟨⟨error, rfl⟩, fun e he => ?_⟩
    have hasks : (writeAll (consecutive Register.sequence1 values)).run.Asks fun r : Request =>
        ∃ w ∈ consecutive Register.sequence1 values, r = .write w.1 w.2 :=
      asks_writeAll fun w hw => ⟨w, hw, rfl⟩
    exact hasks.of_mem hslots he
  · obtain rfl := yields_writeAll_ok hslots
    obtain ⟨x, rfl, rfl⟩ := yields_write.mp hgo
    exact Or.inr ⟨x, rfl, rfl⟩

/-- A play operation fails without asking for anything, or it loads slot values that make the chip
play the ids that it was asked for. -/
theorem yields_play {op : Operation} {result : Except DriverError Reply}
    (hop : op.requested? = some ids) (step : (h.perform op).Yields u (result, h')) :
    (u = [] ∧ ∃ error, result = .error error) ∨
    Fills op.slotValues ids ∧ ∃ x, (writeAll (playbackWrites op.slotValues)).run.Yields u x ∧
      result = x.map fun _ => .done := by
  -- In standby a play operation is refused; otherwise its program is carried out.
  have hkeep : ∀ {p : Attempt Peripheral Unit},
      (h.keeping (fun _ => .done) (h.requireEnabled >>= fun _ => p)).Yields u (result, h') →
      (u = [] ∧ ∃ error, result = .error error) ∨
        ∃ x, p.run.Yields u x ∧ result = x.map fun _ => .done := by
    intro p hp
    obtain ⟨-, x, hx, rfl⟩ := yields_keeping.mp hp
    rcases yields_requireEnabled_bind.mp hx with ⟨-, rfl, rfl⟩ | ⟨-, hx⟩
    · exact Or.inl ⟨rfl, .notEnabled, rfl⟩
    · exact Or.inr ⟨x, hx, rfl⟩
  cases op with
  | playWaveform id =>
    -- Two slots are enough, because the second one holds `stop`.
    obtain rfl := Option.some.inj hop
    change (h.keeping _ (h.playWaveform id)).Yields _ _ at step
    rw [playWaveform_eq] at step
    refine (hkeep step).imp_right fun hx => ⟨⟨⟨1, rfl⟩, Nat.le_of_ble_eq_true rfl, Or.inl ?_⟩, hx⟩
    exact List.mem_cons_of_mem _ List.mem_cons_self
  | playSequence ids' =>
    obtain rfl := Option.some.inj hop
    rcases hkeep step with hfail | ⟨x, hx, rfl⟩
    · exact Or.inl hfail
    · rcases Attempt.yields_bind.mp hx with ⟨error, hids, rfl⟩ | ⟨s, t₁, t₂, rfl, hids, hload⟩
      · exact Or.inl ⟨(Attempt.yields_ofExcept.mp hids).1, error, rfl⟩
      · obtain ⟨rfl, hs⟩ := Attempt.yields_ofExcept.mp hids
        obtain rfl := WaveformSequence.ids_of_ofIds hs.symm
        rw [loadAndGo_eq_writeAll] at hload
        exact Or.inr ⟨s.fills, x, hload, rfl⟩
  | play s =>
    obtain rfl := Option.some.inj hop
    change (h.keeping _ (h.play s)).Yields _ _ at step
    rw [play, loadAndGo_eq_writeAll] at step
    exact (hkeep step).imp_right fun hx => ⟨s.fills, hx⟩
  | _ => exact nomatch hop

/-- Starting playback leaves the slots alone. -/
theorem sequencer_registersAfter_go (regs : Registers) (x : Except BusFault Unit) :
    sequencer (registersAfter regs [⟨.write Register.go goBit, x⟩]) = sequencer regs := by
  cases x <;> rfl

/-- The slots lie before the go register. -/
theorem ne_go_of_mem_consecutive (hlength : values.length ≤ sequenceSlots) {w : UInt8 × UInt8}
    (hw : w ∈ consecutive Register.sequence1 values) : w.1 ≠ Register.go := by
  intro hgo
  have hlt := (toNat_bounds_of_mem_slots hlength hw).2
  rw [hgo] at hlt
  exact Nat.lt_irrefl _ hlt

/-- Whatever the registers held and whatever happened to them before: a play operation that succeeds
leaves the ids that it was asked for in the sequencer and has started playback last of all, and a
play operation that attempts to start playback at all has written all of its slots before. -/
theorem sequencer_of_play {op : Operation} {result : Except DriverError Reply} (regs : Registers)
    (t : List (Exchange Peripheral)) (hop : op.requested? = some ids)
    (step : (h.perform op).Yields u (result, h')) :
    ((∃ reply, result = .ok reply) →
      audible (sequencer (registersAfter regs (t ++ u))) = audible ids ∧
      u.getLast? = some (accepted (Register.go, goBit))) ∧
    ∀ before e after, u = before ++ e :: after → e.request = .write Register.go goBit →
      before = op.slotHistory ∧
      audible (sequencer (registersAfter regs (t ++ before))) = audible ids := by
  -- A list that is refused asks nothing; any other fills the slots from the first one on.
  rcases yields_play hop step with ⟨rfl, error, rfl⟩ | ⟨hfills, x, hwrites, rfl⟩
  · constructor
    · rintro ⟨reply, hr⟩
      exact nomatch hr
    · exact throughout_nil
  · have hslots : ∀ w ∈ consecutive Register.sequence1 op.slotValues, w.1 ≠ Register.go :=
      fun w hw => ne_go_of_mem_consecutive hfills.length_le hw
    rcases yields_playback hwrites with ⟨⟨error, rfl⟩, hcut⟩ | ⟨x, rfl, rfl⟩
    · -- A slot write has failed, and there is no attempt to start playback.
      constructor
      · rintro ⟨reply, hr⟩
        exact nomatch hr
      · intro before e after hu hgo
        have he : e ∈ u := hu ▸ List.mem_append_right before List.mem_cons_self
        obtain ⟨w, hw, hwrite⟩ := hcut e he
        exact absurd (Request.write.inj (hwrite.symm.trans hgo)).1 (hslots w hw)
    · -- All slots are written, and only the attempt to start playback may still fail.
      have hloaded : audible (sequencer (registersAfter regs (t ++ op.slotHistory))) =
          audible ids := by
        rw [registersAfter_append]
        exact hfills.audible_sequencer _
      refine ⟨?_, throughout_append.mpr ⟨?_, throughout_cons.mpr ⟨?_, throughout_nil⟩⟩⟩
      · rintro ⟨reply, hr⟩
        cases x with
        | error fault => exact nomatch hr
        | ok _ =>
          refine ⟨?_, List.getLast?_concat⟩
          rw [← List.append_assoc, registersAfter_append, sequencer_registersAfter_go]
          exact hloaded
      · intro before e after hu hgo
        have he := hu ▸ List.mem_append_right before List.mem_cons_self
        obtain ⟨w, hw, rfl⟩ := List.mem_map.mp he
        exact absurd (Request.write.inj hgo).1 (hslots w hw)
      · intro _
        rw [List.append_nil]
        exact ⟨rfl, hloaded⟩

/-- A sequence that is cut off at its third slot. -/
def cutSequence : List (Exchange Peripheral) :=
  [accepted (Register.sequence1, Waveform.tick), accepted (Register.sequence2, Waveform.tick),
    ⟨.write (Register.sequence2 + 1) Waveform.tick, .error (.i2c .other)⟩]

theorem reached_cutSequence :
    Reached {} .wired (smoothBringUp ++ cutSequence) ⟨{}, .wired, true⟩ := by
  have hcut : (perform ⟨{}, .wired, true⟩
      (.playSequence [Waveform.tick, Waveform.tick, Waveform.tick])).Yields cutSequence
      (.error (.bus (.i2c .other)), ⟨{}, .wired, true⟩) :=
    ⟨_, _, rfl, _, _, rfl, _, _, rfl, rfl, rfl⟩
  exact reached_smoothBringUp.perform hcut

/-- One waveform after a sequence that was cut off, on registers that held something else still. -/
theorem sequencer_of_play_cutSequence :
    Reached {} .wired (smoothBringUp ++ cutSequence) ⟨{}, .wired, true⟩ ∧
      (perform ⟨{}, .wired, true⟩ (.playWaveform Waveform.click)).Yields
        ((playbackWrites [Waveform.click, Waveform.stop]).map accepted)
        (.ok .done, ⟨{}, .wired, true⟩) ∧
      audible (sequencer (registersAfter (fun _ => Waveform.doubleClick)
        (smoothBringUp ++ cutSequence ++
          (playbackWrites [Waveform.click, Waveform.stop]).map accepted))) = [Waveform.click] :=
  have step := yields_playWaveform_click {} .wired
  ⟨reached_cutSequence, step, ((sequencer_of_play _ _ rfl step).1 ⟨_, rfl⟩).1⟩

end TactilePad.Haptic
