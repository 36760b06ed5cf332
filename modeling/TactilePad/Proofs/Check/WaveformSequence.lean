import TactilePad.Check.WaveformSequence
import TactilePad.Proofs.Haptic.Faults
import TactilePad.Proofs.Haptic.Sequencer

/-!
# Playback of any list of ids

* `playSequence_of_ids`: a list of one to eight ids is accepted as it is and padded with `stop`; an
  active driver plays it as it plays the accepted sequence, writing the eight slots in order and
  then starting playback, up to the first fault; any other list, and any list in standby, is refused
  without an access.  The check of arbitrary lists passes for every list.

The check runs on a bench whose chip accepts every write (`Accepting`).  It sees the writes of the
driver's history (`Accepting.stored_run`), and what that history is was shown for all surroundings
(`written_iff`, `SequencePlayed`).
-/

namespace TactilePad.Haptic

variable {ids : List UInt8} {t : List (Exchange Peripheral)}

/-! ### Lists that are accepted -/

namespace WaveformSequence

/-- Why a list that cannot be played is refused. -/
def refusal (ids : List UInt8) : String :=
  if ids = [] then "waveform sequence is empty" else "waveform sequence longer than 8"

/-- A list of one to eight ids is accepted. -/
theorem ofIds_of_length (hpos : 1 ≤ ids.length) (hle : ids.length ≤ 8) :
    ∃ s, ofIds ids = .ok s := by
  have hne : ids ≠ [] := List.length_pos_iff.mp hpos
  have hslots : ids.length ≤ sequenceSlots := hle
  refine ⟨⟨ids, hne, hslots⟩, ?_⟩
  rw [ofIds, dif_neg hne, dif_pos hslots]

/-- Any other list is refused. -/
theorem ofIds_of_not_length (h : ¬ (1 ≤ ids.length ∧ ids.length ≤ 8)) :
    ofIds ids = .error (.invalidArgument (refusal ids)) := by
  by_cases hne : ids = []
  · rw [ofIds, dif_pos hne, refusal, if_pos hne]
  · have hpos : 1 ≤ ids.length := List.length_pos_iff.mpr hne
    have hlong : ¬ ids.length ≤ sequenceSlots := fun hle => h ⟨hpos, hle⟩
    rw [ofIds, dif_neg hne, dif_neg hlong, refusal, if_neg hne]

/-- Exactly the lists of one to eight ids are accepted. -/
theorem exists_ofIds_iff : (∃ s, ofIds ids = .ok s) ↔ 1 ≤ ids.length ∧ ids.length ≤ 8 := by
  constructor
  · rintro ⟨s, hs⟩
    refine Decidable.byContradiction fun hlength => ?_
    rw [ofIds_of_not_length hlength] at hs
    cases hs
  · rintro ⟨hpos, hle⟩
    exact ofIds_of_length hpos hle

end WaveformSequence

/-! ### What playing a list does -/

/-- Where nothing fails, all is written. -/
theorem Written.eq_of_faultless {ws : List (UInt8 × UInt8)} {result : Except DriverError Unit}
    (h : Written ws t result) (ht : Faultless t) : result = .ok () ∧ t = ws.map accepted := by
  cases h with
  | all => exact ⟨rfl, rfl⟩
  | @cut before after w split fault => simp [fault?] at ht

/-- Values for consecutive registers, numbered. -/
theorem consecutive_eq_map (register : UInt8) (values : List UInt8) :
    consecutive register values =
      (List.range values.length).map fun i => (register + UInt8.ofNat i, values.getD i 0) := by
  induction values generalizing register with
  | nil => rfl
  | cons value values ih =>
    have hnext : ∀ i, register + 1 + UInt8.ofNat i = register + UInt8.ofNat (i + 1) := by
      intro i
      rw [UInt8.ofNat_add, UInt8.add_assoc, UInt8.add_comm 1]
      rfl
    rw [consecutive, ih, List.length_cons, List.range_succ_eq_map, List.map_cons, List.map_map]
    simp [hnext, Function.comp_def]

/-- The eight slots hold the ids in order and then zeros. -/
theorem playbackWrites_slots (s : WaveformSequence) :
    playbackWrites s.slots = Check.playbackWrites s.ids := by
  have hpadded : ∀ i, s.slots.getD i 0 = s.ids.getD i 0 := by
    intro i
    rw [WaveformSequence.slots, List.getD_eq_getElem?_getD, List.getD_eq_getElem?_getD]
    rcases Nat.lt_or_ge i s.ids.length with hi | hi
    · rw [List.getElem?_append_left hi]
    · rw [List.getElem?_append_right hi, List.getElem?_eq_none hi, List.getElem?_replicate]
      split <;> rfl
  rw [playbackWrites, Check.playbackWrites, consecutive_eq_map, s.length_slots]
  simp only [hpadded]
  rfl

/-- What a driver does when it is asked to play a list of ids. -/
structure SequencePlayed (h : Haptic) (ids : List UInt8) : Prop where
  /-- In standby every list is refused. -/
  standby : h.enabled = false → h.perform (.playSequence ids) = pure (.error .notEnabled, h)
  /-- A list that is empty or too long is refused without an access. -/
  refused : h.enabled = true → ¬ (1 ≤ ids.length ∧ ids.length ≤ 8) →
    h.perform (.playSequence ids) =
      pure (.error (.invalidArgument (WaveformSequence.refusal ids)), h)
  /-- Any other list is played as the sequence that is made of it. -/
  played : ∀ s, h.enabled = true → WaveformSequence.ofIds ids = .ok s →
    h.perform (.playSequence ids) = h.perform (.play s)
  /-- The eight slots are written in order, and then playback is started, up to the first fault. -/
  written : h.enabled = true → 1 ≤ ids.length → ids.length ≤ 8 → ∀ t reply h',
    (h.perform (.playSequence ids)).Yields t (reply, h') ↔
      h' = h ∧ ∃ result, Written (Check.playbackWrites ids) t result ∧
        reply = result.map fun _ => .done

theorem playSequence_of_active {h : Haptic} (hactive : h.enabled = true) (ids : List UInt8) :
    h.playSequence ids = Attempt.ofExcept (WaveformSequence.ofIds ids) >>= loadAndGo := by
  rw [playSequence, requireEnabled, if_pos hactive, pure_bind]

theorem play_of_active {h : Haptic} (hactive : h.enabled = true) (s : WaveformSequence) :
    h.play s = loadAndGo s := by
  rw [play, requireEnabled, if_pos hactive, pure_bind]

/-- Each of these holds for every driver and every list. -/
theorem sequencePlayed (h : Haptic) (ids : List UInt8) : SequencePlayed h ids := by
  have hplayed : ∀ s, h.enabled = true → WaveformSequence.ofIds ids = .ok s →
      h.perform (.playSequence ids) = h.perform (.play s) := by
    intro s hactive hs
    show h.keeping _ (h.playSequence ids) = h.keeping _ (h.play s)
    rw [playSequence_of_active hactive, play_of_active hactive, hs]
    rfl
  refine ⟨fun hstandby => perform_of_standby hstandby rfl, ?_, hplayed, ?_⟩
  · intro hactive hlength
    show h.keeping _ (h.playSequence ids) = _
    rw [playSequence_of_active hactive, WaveformSequence.ofIds_of_not_length hlength]
    rfl
  · intro hactive hpos hle t reply h'
    -- The slots hold the ids and then zeros, which are the writes that the check expects.
    obtain ⟨s, hs⟩ := WaveformSequence.ofIds_of_length hpos hle
    have hids := WaveformSequence.ids_of_ofIds hs
    rw [hplayed s hactive hs]
    show (h.keeping _ (h.play s)).Yields t (reply, h') ↔ _
    rw [yields_keeping, play_of_active hactive, loadAndGo_eq_writeAll, playbackWrites_slots, hids]
    simp only [written_iff]

/-- A write that was accepted. -/
def written? : Exchange Peripheral → Option (UInt8 × UInt8)
  | ⟨.write register value, .ok ()⟩ => some (register, value)
  | _ => none

theorem filterMap_written?_accepted (ws : List (UInt8 × UInt8)) :
    (ws.map accepted).filterMap written? = ws := by
  rw [List.filterMap_map]
  exact List.filterMap_some

/-- A bring-up without a calibration and without a fault writes the configuration. -/
theorem written?_of_bringUp {config : HapticConfig} {line : ControlLine} {h : Haptic}
    (hauto : config.autoCalibration = false) (up : (bringUp config line).run.Yields t (.ok h)) :
    h = ⟨config, line, true⟩ ∧ t.filterMap written? = configWrites config := by
  obtain ⟨hh, status, calibration, hcalibration, rfl⟩ := yields_bringUp_ok up
  refine ⟨hh, ?_⟩
  rw [BringUpCalibration, hauto] at hcalibration
  have hraised : (raised line).filterMap written? = [] := by
    cases line <;> rfl
  obtain rfl : calibration = [] := hcalibration
  simp only [List.filterMap_append, hraised, filterMap_written?_accepted]
  exact List.append_nil _

end TactilePad.Haptic

namespace TactilePad.Check

open Bench Haptic

/-! ### A chip that accepts everything -/

/-- Straight on a chip that has no script and a line that has none. -/
structure Accepting (b : HapticBench) : Prop where
  direct : b.transport = .direct true
  reads : ∀ register, b.chip.reads register = []
  writes : ∀ register, b.chip.writes register = []
  lineFaults : b.lineFaults = 0

/-- The register writes that were recorded, oldest first. -/
def stored (b : HapticBench) : List (UInt8 × UInt8) :=
  b.trace.reverse.filterMap Entry.stored?

theorem stored_record (b : HapticBench) (e : Entry) :
    stored (b.record e) = stored b ++ e.stored?.toList := by
  rw [stored, HapticBench.record, List.reverse_cons, List.filterMap_append, stored]
  congr 1

variable {b : HapticBench}

/-- What an accepting chip does with a question: nothing fails, a write is recorded, and the chip
goes on accepting. -/
structure Served (b : HapticBench) (r : Haptic.Request) : Prop where
  faultless : fault? ⟨r, (HapticBench.serve r b).1⟩ = none
  stored : stored (HapticBench.serve r b).2 =
    stored b ++ (written? ⟨r, (HapticBench.serve r b).1⟩).toList
  accepting : Accepting (HapticBench.serve r b).2

/-- A question that leaves one entry and the scripts of the chip as they were. -/
theorem Accepting.served_of_record (h : Accepting b) {r : Haptic.Request}
    {x : Haptic.Peripheral.Answer r} {chip : Chip} {e : Entry}
    (hserve : HapticBench.serve r b = (x, { b with chip := chip }.record e))
    (hscripts : chip.reads = b.chip.reads ∧ chip.writes = b.chip.writes)
    (hfault : fault? ⟨r, x⟩ = none) (hentry : e.stored? = written? ⟨r, x⟩) : Served b r := by
  constructor
  · rw [hserve]
    exact hfault
  · rw [hserve, stored_record, hentry]
    rfl
  · rw [hserve]
    exact ⟨h.direct, hscripts.1 ▸ h.reads, hscripts.2 ▸ h.writes, h.lineFaults⟩

/-- An accepting chip serves every question. -/
theorem Accepting.serve (h : Accepting b) (r : Haptic.Request) : Served b r := by
  cases r with
  | busReady =>
    have hserve : HapticBench.serve .busReady b = (true, b.record (.ready .bus true)) :=
      HapticBench.busReady_of_direct h.direct
    exact h.served_of_record hserve ⟨rfl, rfl⟩ rfl rfl
  | drive level =>
    have hserve : HapticBench.serve (.drive level) b =
        (.ok (), b.record (.drive .enable level false)) := by
      show b.driveLine level = _
      unfold HapticBench.driveLine
      rw [h.lineFaults]
    exact h.served_of_record hserve ⟨rfl, rfl⟩ rfl rfl
  | read register =>
    have hchip : b.chip.read register = (.ok (b.chip.registers register), b.chip) := by
      rw [Chip.read, h.reads]
    have hserve : HapticBench.serve (.read register) b = (.ok (b.chip.registers register),
        b.record (.read register (.ok (b.chip.registers register)))) := by
      show b.readRegister register = _
      rw [HapticBench.readRegister_of_direct h.direct, HapticBench.readChip, hchip]
    exact h.served_of_record hserve ⟨rfl, rfl⟩ rfl rfl
  | write register value =>
    have hchip : b.chip.write register value = (.ok (), b.chip.store register value) := by
      rw [Chip.write, h.writes]
    have hserve : HapticBench.serve (.write register value) b =
        (.ok (), { b with chip := b.chip.store register value }.record
          (.write register value (.ok ()))) := by
      show b.writeRegister register value = _
      rw [HapticBench.writeRegister_of_direct h.direct, HapticBench.writeChip, hchip]
    -- Storing a value touches no script, whether the register takes it or not.
    have hscripts : (b.chip.store register value).reads = b.chip.reads ∧
        (b.chip.store register value).writes = b.chip.writes := by
      unfold Chip.store
      split <;> exact ⟨rfl, rfl⟩
    exact h.served_of_record hserve hscripts rfl rfl
  | delay ms =>
    have hserve : HapticBench.serve (.delay ms) b = ((), b.record (.delay ms)) := rfl
    exact h.served_of_record hserve ⟨rfl, rfl⟩ rfl rfl
  | note notice =>
    have hserve : HapticBench.serve (.note notice) b = ((), b.record (.log notice.record)) := rfl
    exact h.served_of_record hserve ⟨rfl, rfl⟩ rfl rfl

section Runs

variable {α : Type} (p : Program Peripheral α)

/-- An accepting chip stays one while a driver runs on it. -/
theorem Accepting.run (h : Accepting b) : Accepting (p.run HapticBench.serve b).2 :=
  p.run_keeps (fun r _ hb => (hb.serve r).accepting) h

theorem Accepting.faultless (h : Accepting b) : Faultless (p.history HapticBench.serve b) :=
  p.forall_mem_history (fun r _ hb => ⟨(hb.serve r).faultless, (hb.serve r).accepting⟩) h

/-- The writes that are recorded are those of the history. -/
theorem Accepting.stored_run (h : Accepting b) :
    stored (p.run HapticBench.serve b).2 =
      stored b ++ (p.history HapticBench.serve b).filterMap written? :=
  p.noted_run_of_kept (fun r _ hb => ⟨(hb.serve r).stored, (hb.serve r).accepting⟩) h

end Runs

/-! ### The check -/

theorem isPlayable_iff {ids : List UInt8} :
    isPlayable ids = true ↔ 1 ≤ ids.length ∧ ids.length ≤ 8 := by
  rw [isPlayable, Bool.and_eq_true, decide_eq_true_iff, decide_eq_true_iff, sequenceSlots]

/-- The check expects what the driver accepts. -/
theorem isOk_ofIds (ids : List UInt8) :
    (WaveformSequence.ofIds ids).isOk = isPlayable ids := by
  rw [Bool.eq_iff_iff, isPlayable_iff, ← WaveformSequence.exists_ofIds_iff]
  cases WaveformSequence.ofIds ids <;> simp [Except.isOk, Except.toBool]

/-- On an active driver and an accepting chip, a playable list is written, and any other fails and
writes nothing. -/
theorem playbackHolds_of_accepting {h : Haptic} (hb : Accepting b) (hactive : h.enabled = true)
    (ids : List UInt8) :
    playbackHolds ids ((h.perform (.playSequence ids)).run HapticBench.serve b).1.1
        (((h.perform (.playSequence ids)).history HapticBench.serve b).filterMap written?)
      = true := by
  have hplayed := sequencePlayed h ids
  by_cases hlength : 1 ≤ ids.length ∧ ids.length ≤ 8
  · have hyields := (h.perform (.playSequence ids)).yields_history HapticBench.serve b
    obtain ⟨-, result, hwritten, hreply⟩ :=
      (hplayed.written hactive hlength.1 hlength.2 _ _ _).mp hyields
    -- No write was refused, so all of them are there.
    obtain ⟨rfl, ht⟩ := hwritten.eq_of_faultless (hb.faultless _)
    rw [playbackHolds, if_pos (isPlayable_iff.mpr hlength), hreply, ht,
      filterMap_written?_accepted, beq_self_eq_true, Bool.and_true]
    rfl
  · rw [hplayed.refused hactive hlength, playbackHolds, if_neg (mt isPlayable_iff.mp hlength)]
    rfl

/-- The check passes for every list. -/
theorem passed_waveformSequence (ids : List UInt8) : (waveformSequence ids).passed = true := by
  have hstart : Accepting {} := ⟨rfl, fun _ => rfl, fun _ => rfl, rfl⟩
  unfold waveformSequence
  rw [isOk_ofIds, bne_self_eq_false, if_neg Bool.false_ne_true]
  split
  · rfl
  · next h b hup =>
    -- The bring-up has recorded its writes, and the playback records its own behind them.
    let up := (Haptic.bringUp {} .absent).run
    have hrun : up.run HapticBench.serve {} = (.ok h, b) := hup
    have hyields : up.Yields (up.history HapticBench.serve {}) (.ok h) := by
      have hhistory := up.yields_history HapticBench.serve {}
      rwa [hrun] at hhistory
    obtain ⟨rfl, hwrites⟩ := written?_of_bringUp rfl hyields
    have hb : Accepting b := by
      have hkept := hstart.run up
      rwa [hrun] at hkept
    have hconfig : stored b = configWrites {} := by
      have hstored := hstart.stored_run up
      rwa [hrun, hwrites] at hstored
    -- What the playback has recorded stands behind the configuration, and is what it has asked to
    -- be written.
    let play := Haptic.perform ⟨{}, .absent, true⟩ (.playSequence ids)
    have hplay : stored (play.run HapticBench.serve b).2 =
        configWrites {} ++ (play.history HapticBench.serve b).filterMap written? := by
      rw [hb.stored_run play, hconfig]
    show playbackHolds ids (play.run HapticBench.serve b).1.1
      ((stored (play.run HapticBench.serve b).2).drop bringUpWrites) = true
    have hlength : (configWrites {}).length = bringUpWrites := rfl
    rw [hplay, ← hlength, List.drop_left]
    exact playbackHolds_of_accepting hb rfl ids

/-- Whatever the list, whatever the driver's state and whatever fails: a list of one to eight ids is
accepted and padded with zeros, and played like the sequence made of it, any other is refused
without an access; in particular the check passes. -/
theorem playSequence_of_ids (ids : List UInt8) :
    ((∃ s, WaveformSequence.ofIds ids = .ok s) ↔ 1 ≤ ids.length ∧ ids.length ≤ 8) ∧
    (∀ s, WaveformSequence.ofIds ids = .ok s →
      s.ids = ids ∧ s.slots = ids ++ List.replicate (8 - ids.length) 0) ∧
    (∀ h : Haptic, SequencePlayed h ids) ∧
    (waveformSequence ids).passed = true := by
  refine ⟨WaveformSequence.exists_ofIds_iff, ?_, fun h => sequencePlayed h ids,
    passed_waveformSequence ids⟩
  intro s hs
  obtain rfl := WaveformSequence.ids_of_ofIds hs
  exact ⟨rfl, rfl⟩

/-- Three ids on a chip that refuses the third slot. -/
theorem playSequence_of_ids_cutSequence :
    (∃ s, WaveformSequence.ofIds [Waveform.tick, Waveform.tick, Waveform.tick] = .ok s) ∧
      (Haptic.perform ⟨{}, .wired, true⟩
        (.playSequence [Waveform.tick, Waveform.tick, Waveform.tick])).Yields cutSequence
        (.error (.bus (.i2c .other)), ⟨{}, .wired, true⟩) := by
  obtain ⟨haccepted, -, hplayed, -⟩ :=
    playSequence_of_ids [Waveform.tick, Waveform.tick, Waveform.tick]
  refine ⟨haccepted.mpr (by decide), ?_⟩
  refine ((hplayed _).written rfl (by decide) (by decide) _ _ _).mpr
    ⟨rfl, .error (.bus (.i2c .other)), ?_, rfl⟩
  have hsplit : playbackWrites [Waveform.tick, Waveform.tick, Waveform.tick] =
      [(Register.sequence1, Waveform.tick), (Register.sequence2, Waveform.tick)] ++
        (Register.sequence2 + 1, Waveform.tick) ::
          (playbackWrites [Waveform.tick, Waveform.tick, Waveform.tick]).drop 3 := by decide
  exact .cut hsplit _

end TactilePad.Check
