import TactilePad.Bench.Haptic
import TactilePad.Proofs.Bench.CommandTransport
import TactilePad.Proofs.Haptic.Sequencer

/-!
# Transports

* `transports_are_transparent`: over SPI a trackpad, and over I2C a haptic driver, gets on as
  straight on its device; on an I2C bus, every access to an address at which no chip answers is not
  acknowledged and changes nothing.

The registers go the way that the commands over SPI go: benches of the same view answer alike and
come to the same view again (`HapticBench.Alike.serve`).  That a plain chip is read as it was
written is shown of the chip alone (`HapticBench.readsLatest_history`), and holds over I2C because
the history of the driver is the same there.
-/

namespace TactilePad.Bench

/-- What a chip on an I2C bus can answer: a fault is one of I2C. -/
def ReadItem.OverI2c : ReadItem → Prop
  | .fault f => ∃ g, f = .i2c g
  | .stored | .value _ => True

def WriteItem.OverI2c : WriteItem → Prop
  | .fault f => ∃ g, f = .i2c g
  | .accept => True

/-- Every fault that the chip is going to report is one of I2C. -/
structure Chip.SpeaksI2c (c : Chip) : Prop where
  reads : ∀ register, ∀ item ∈ c.reads register, item.OverI2c
  writes : ∀ register, ∀ item ∈ c.writes register, item.OverI2c

/-- The chip is a plain register file: it reads out what it holds, and holds what is written. -/
structure Chip.IsPlain (c : Chip) : Prop where
  goSticks : c.goSticks = true
  reads : ∀ register, ∀ item ∈ c.reads register, ∀ b, item ≠ .value b

/-! ### One access to the chip -/

namespace Chip

variable {c : Chip}

/-- What is left of a script was part of it. -/
theorem setAt_subset {α : Type} {f : UInt8 → List α} {register : UInt8} {item : α}
    {items : List α} (h : f register = item :: items) (r : UInt8) :
    ∀ x ∈ setAt f register items r, x ∈ f r := by
  intro x hx
  unfold setAt at hx
  split at hx
  · next hr =>
    rw [hr, h]
    exact List.mem_cons_of_mem item hx
  · exact hx

/-- The fault of a read is one of I2C, and those that are left are as well. -/
theorem SpeaksI2c.read (h : c.SpeaksI2c) (register : UInt8) :
    (∀ f, (c.read register).1 = .error f → ∃ g, f = .i2c g) ∧
      (c.read register).2.SpeaksI2c := by
  unfold Chip.read
  split
  · exact ⟨nofun, h⟩
  · next item items hitems =>
    -- The item that is next was of I2C, and so are the others.
    have hrest : SpeaksI2c { c with reads := setAt c.reads register items } :=
      ⟨fun r x hx => h.reads r x (setAt_subset hitems r x hx), h.writes⟩
    have hitem : item.OverI2c := h.reads register item (hitems ▸ List.mem_cons_self)
    cases item with
    | stored => exact ⟨nofun, hrest⟩
    | value b => exact ⟨nofun, hrest⟩
    | fault f =>
      refine ⟨fun f' hf => ?_, hrest⟩
      obtain rfl := Except.error.inj hf
      exact hitem

/-- Storing a value leaves the scripts alone. -/
theorem SpeaksI2c.store (h : c.SpeaksI2c) (register value : UInt8) :
    (c.store register value).SpeaksI2c := by
  unfold Chip.store
  split
  · exact h
  · exact ⟨h.reads, h.writes⟩

/-- A write fails with a fault of I2C only, and what is left of the scripts is as before. -/
theorem SpeaksI2c.write (h : c.SpeaksI2c) (register value : UInt8) :
    (∀ f, (c.write register value).1 = .error f → ∃ g, f = .i2c g) ∧
      (c.write register value).2.SpeaksI2c := by
  unfold Chip.write
  split
  · exact ⟨nofun, h.store register value⟩
  · next item items hitems =>
    -- The item that is next was of I2C, and so are the others.
    have hrest : SpeaksI2c { c with writes := setAt c.writes register items } :=
      ⟨h.reads, fun r x hx => h.writes r x (setAt_subset hitems r x hx)⟩
    have hitem : item.OverI2c := h.writes register item (hitems ▸ List.mem_cons_self)
    cases item with
    | accept => exact ⟨nofun, hrest.store register value⟩
    | fault f =>
      refine ⟨fun f' hf => ?_, hrest⟩
      obtain rfl := Except.error.inj hf
      exact hitem

/-- A plain chip reads out what it holds, and keeps it. -/
theorem IsPlain.read (h : c.IsPlain) (register : UInt8) :
    (∀ v, (c.read register).1 = .ok v → v = c.registers register) ∧
      (c.read register).2.registers = c.registers ∧ (c.read register).2.IsPlain := by
  unfold Chip.read
  split
  · exact ⟨fun v hv => (Except.ok.inj hv).symm, rfl, h⟩
  · next item items hitems =>
    have hrest : IsPlain { c with reads := setAt c.reads register items } :=
      ⟨h.goSticks, fun r x hx => h.reads r x (setAt_subset hitems r x hx)⟩
    cases item with
    | stored => exact ⟨fun v hv => (Except.ok.inj hv).symm, rfl, hrest⟩
    | value b => exact absurd rfl (h.reads register _ (hitems ▸ List.mem_cons_self) b)
    | fault f => exact ⟨nofun, rfl, hrest⟩

/-- A plain chip keeps what is stored in it. -/
theorem IsPlain.store (h : c.IsPlain) (register value : UInt8) :
    c.store register value = { c with registers := setAt c.registers register value } := by
  rw [Chip.store, h.goSticks, Bool.not_true, Bool.and_false, if_neg Bool.false_ne_true]

/-- A plain chip holds what is written, unless the write fails. -/
theorem IsPlain.write (h : c.IsPlain) (register value : UInt8) :
    (c.write register value).2.registers =
      (match (c.write register value).1 with
        | .ok () => setAt c.registers register value
        | .error _ => c.registers) ∧ (c.write register value).2.IsPlain := by
  unfold Chip.write
  split
  · rw [h.store]
    exact ⟨rfl, h.goSticks, h.reads⟩
  · next item items hitems =>
    have hrest : IsPlain { c with writes := setAt c.writes register items } :=
      ⟨h.goSticks, h.reads⟩
    cases item with
    | accept =>
      simp only
      rw [hrest.store]
      exact ⟨rfl, h.goSticks, h.reads⟩
    | fault f => exact ⟨rfl, hrest⟩

end Chip

namespace HapticBench

variable {b b' : HapticBench}

/-! ### The view without the transport -/

/-- The bench without its transport, and without the entries that only a transport leaves. -/
def seen (b : HapticBench) : HapticBench :=
  { b with transport := .direct true, trace := b.trace.filter fun e => !e.ofTransport }

theorem seen_record {e : Entry} (he : e.ofTransport = false) (b : HapticBench) :
    (b.record e).seen = b.seen.record e := by
  rw [seen, record, Entry.filter_cons_of_not_transport he]
  rfl

theorem seen_record_of_transport {e : Entry} (he : e.ofTransport = true) (b : HapticBench) :
    (b.record e).seen = b.seen := by
  rw [seen, record, Entry.filter_cons_of_transport he]
  rfl

theorem seen_readChip (register : UInt8) (b : HapticBench) :
    (b.readChip register).1 = (b.seen.readChip register).1 ∧
      (b.readChip register).2.seen = (b.seen.readChip register).2 :=
  ⟨rfl, seen_record rfl _⟩

theorem seen_writeChip (register value : UInt8) (b : HapticBench) :
    (b.writeChip register value).1 = (b.seen.writeChip register value).1 ∧
      (b.writeChip register value).2.seen = (b.seen.writeChip register value).2 :=
  ⟨rfl, seen_record rfl _⟩

theorem seen_driveLine (level : Bool) (b : HapticBench) :
    (b.driveLine level).1 = (b.seen.driveLine level).1 ∧
      (b.driveLine level).2.seen = (b.seen.driveLine level).2 := by
  have hfaults : b.seen.lineFaults = b.lineFaults := rfl
  unfold driveLine
  rw [hfaults]
  cases b.lineFaults with
  | zero => exact ⟨rfl, seen_record rfl b⟩
  | succ n => exact ⟨rfl, seen_record rfl _⟩

/-! ### Accesses over I2C -/

/-- The bench as it is before the chip answers on the bus: the raw transaction is recorded. -/
def addressed (b : HapticBench) (r : Bus.I2cRequest) : HapticBench :=
  if b.recordsRaw then b.record (.i2c r.address r.segments) else b

theorem seen_addressed (b : HapticBench) (r : Bus.I2cRequest) : (b.addressed r).seen = b.seen := by
  unfold addressed
  split
  · exact seen_record_of_transport rfl b
  · rfl

/-- A raw transaction leaves everything but the record alone. -/
theorem addressed_eq (b : HapticBench) (r : Bus.I2cRequest) :
    ∃ trace, b.addressed r = { b with trace } := by
  unfold addressed
  split
  · exact ⟨_, rfl⟩
  · exact ⟨b.trace, rfl⟩

/-- A fault of I2C goes through the transport unchanged. -/
theorem mapError_i2cFault {α : Type} {x : Except BusFault α}
    (h : ∀ f, x = .error f → ∃ g, f = .i2c g) : (x.mapError i2cFault).mapError .i2c = x := by
  cases x with
  | ok a => rfl
  | error f =>
    obtain ⟨g, rfl⟩ := h f rfl
    rfl

/-- The chip takes a transaction at its address, and no other. -/
theorem serveI2c_eq (r : Bus.I2cRequest) (b : HapticBench) :
    serveI2c r b = if r.address = b.device then
      (((b.addressed r).serveSegments 0 r.segments).1.mapError i2cFault,
        ((b.addressed r).serveSegments 0 r.segments).2)
    else (.error (.noAcknowledge .address), (b.addressed r).record (.nack r.address)) := by
  have hdevice : (b.addressed r).device = b.device := by
    obtain ⟨trace, h⟩ := addressed_eq b r
    rw [h]
  show (if r.address = (b.addressed r).device then _ else _) = _
  rw [hdevice]
  rfl

theorem serveI2c_of_device {r : Bus.I2cRequest} (hr : r.address = b.device) :
    serveI2c r b = (((b.addressed r).serveSegments 0 r.segments).1.mapError i2cFault,
      ((b.addressed r).serveSegments 0 r.segments).2) := by
  rw [serveI2c_eq, if_pos hr]

/-- The segments of a register read are one read of the chip. -/
theorem serveSegments_read (register : UInt8) (b : HapticBench) :
    b.serveSegments 0 [.write [register], .read 1] =
      ((b.readChip register).1.map fun v => [[v]], (b.readChip register).2) := by
  simp only [serveSegments, writeBytes, readBytes]
  obtain ⟨result, c⟩ := b.readChip register
  cases result <;> rfl

/-- The segments of a register write are one write of it. -/
theorem serveSegments_write (register value : UInt8) (b : HapticBench) :
    b.serveSegments 0 [.write [register, value]] =
      ((b.writeChip register value).1.map fun _ => [], (b.writeChip register value).2) := by
  simp only [serveSegments, writeBytes]
  obtain ⟨result, c⟩ := b.writeChip register value
  cases result <;> rfl

/-- The transaction by which a register is read. -/
def readRequest (address register : UInt8) : Bus.I2cRequest :=
  ⟨address, [.write [register], .read 1]⟩

/-- The transaction by which a register is written. -/
def writeRequest (address register value : UInt8) : Bus.I2cRequest :=
  ⟨address, [.write [register, value]]⟩

theorem readRegister_of_i2c {address : UInt8} (h : b.transport = .i2c address)
    (register : UInt8) :
    b.readRegister register =
      (((serveI2c (readRequest address register) b).1.map Bus.firstByte).mapError .i2c,
        (serveI2c (readRequest address register) b).2) := by
  unfold readRegister
  rw [h]
  rfl

theorem writeRegister_of_i2c {address : UInt8} (h : b.transport = .i2c address)
    (register value : UInt8) :
    b.writeRegister register value =
      (((serveI2c (writeRequest address register value) b).1.map fun _ => ()).mapError .i2c,
        (serveI2c (writeRequest address register value) b).2) := by
  unfold writeRegister
  rw [h]
  rfl

/-- A register read at the chip's address is one read of the chip. -/
theorem readRegister_of_device (h : b.transport = .i2c b.device) (register : UInt8) :
    let c := b.addressed (readRequest b.device register)
    b.readRegister register =
      (((c.readChip register).1.mapError i2cFault).mapError .i2c, (c.readChip register).2) := by
  intro c
  have hserve : serveI2c (readRequest b.device register) b =
      (((c.readChip register).1.map fun v => [[v]]).mapError i2cFault,
        (c.readChip register).2) := by
    rw [serveI2c_of_device rfl]
    simp only [readRequest, serveSegments_read]
    rfl
  rw [readRegister_of_i2c h, hserve]
  cases (c.readChip register).1 <;> rfl

/-- A register write at the chip's address is one write of the chip. -/
theorem writeRegister_of_device (h : b.transport = .i2c b.device) (register value : UInt8) :
    let c := b.addressed (writeRequest b.device register value)
    b.writeRegister register value =
      (((c.writeChip register value).1.mapError i2cFault).mapError .i2c,
        (c.writeChip register value).2) := by
  intro c
  have hserve : serveI2c (writeRequest b.device register value) b =
      (((c.writeChip register value).1.map fun _ => []).mapError i2cFault,
        (c.writeChip register value).2) := by
    rw [serveI2c_of_device rfl]
    simp only [writeRequest, serveSegments_write]
    rfl
  rw [writeRegister_of_i2c h, hserve]
  cases (c.writeChip register value).1 <;> rfl

/-! ### Benches of the same view -/

/-- A bench over I2C, speaking to its chip, and one straight on the registers of a bus that is
ready, of the same view. -/
structure Alike (b b' : HapticBench) : Prop where
  i2c : b.transport = .i2c b.device
  direct : b'.transport = .direct true
  speaksI2c : b.chip.SpeaksI2c
  seen : b.seen = b'.seen

/-- Benches stay of the same view where neither transport nor chip are touched. -/
theorem Alike.of_seen (h : Alike b b') {c c' : HapticBench} (hi2c : c.transport = b.transport)
    (hdevice : c.device = b.device) (hdirect : c'.transport = b'.transport)
    (hchip : c.chip.SpeaksI2c) (hseen : c.seen = c'.seen) : Alike c c' where
  i2c := by rw [hi2c, hdevice, h.i2c]
  direct := hdirect.trans h.direct
  speaksI2c := hchip
  seen := hseen

/-- An access to the chip goes the same way over I2C as straight on the registers. -/
theorem Alike.access {α : Type} (h : Alike b b')
    {f : HapticBench → Except BusFault α × HapticBench}
    (hview : ∀ c, (f c).1 = (f c.seen).1 ∧ (f c).2.seen = (f c.seen).2)
    (hkeeps : ∀ c, (f c).2.transport = c.transport ∧ (f c).2.device = c.device)
    (hspeaks : ∀ c : HapticBench, c.chip.SpeaksI2c →
      (∀ fault, (f c).1 = .error fault → ∃ g, fault = .i2c g) ∧ (f c).2.chip.SpeaksI2c)
    (r : Bus.I2cRequest) :
    ((f (b.addressed r)).1.mapError i2cFault).mapError .i2c = (f b').1 ∧
      Alike (f (b.addressed r)).2 (f b').2 := by
  obtain ⟨hvalue, hseen⟩ := hview (b.addressed r)
  obtain ⟨hvalue', hseen'⟩ := hview b'
  rw [seen_addressed, h.seen] at hvalue hseen
  -- The raw transaction comes first, and the chip does not know of it.
  obtain ⟨trace, haddressed⟩ := addressed_eq b r
  have hstart : (b.addressed r).transport = b.transport ∧ (b.addressed r).device = b.device ∧
      (b.addressed r).chip.SpeaksI2c := by
    rw [haddressed]
    exact ⟨rfl, rfl, h.speaksI2c⟩
  obtain ⟨hfaults, hchip⟩ := hspeaks (b.addressed r) hstart.2.2
  obtain ⟨htransport, hdevice⟩ := hkeeps (b.addressed r)
  constructor
  · rw [mapError_i2cFault hfaults, hvalue, hvalue']
  · exact h.of_seen (htransport.trans hstart.1) (hdevice.trans hstart.2.1) (hkeeps b').1 hchip
      (hseen.trans hseen'.symm)

/-- A register is read alike. -/
theorem Alike.readRegister (h : Alike b b') (register : UInt8) :
    (b.readRegister register).1 = (b'.readRegister register).1 ∧
      Alike (b.readRegister register).2 (b'.readRegister register).2 := by
  have hdirect : b'.readRegister register = b'.readChip register := by
    unfold HapticBench.readRegister
    rw [h.direct]
  rw [readRegister_of_device h.i2c, hdirect]
  exact h.access (seen_readChip register) (fun c => ⟨rfl, rfl⟩)
    (fun c hc => hc.read register) _

/-- A register is written alike. -/
theorem Alike.writeRegister (h : Alike b b') (register value : UInt8) :
    (b.writeRegister register value).1 = (b'.writeRegister register value).1 ∧
      Alike (b.writeRegister register value).2 (b'.writeRegister register value).2 := by
  have hdirect : b'.writeRegister register value = b'.writeChip register value := by
    unfold HapticBench.writeRegister
    rw [h.direct]
  rw [writeRegister_of_device h.i2c, hdirect]
  exact h.access (seen_writeChip register value) (fun c => ⟨rfl, rfl⟩)
    (fun c hc => hc.write register value) _

/-- Whatever the driver asks, the answers are the same. -/
theorem Alike.serve (r : Haptic.Request) (b b' : HapticBench) (h : Alike b b') :
    (serve r b).1 = (serve r b').1 ∧ Alike (serve r b).2 (serve r b').2 := by
  cases r with
  | read register => exact h.readRegister register
  | write register value => exact h.writeRegister register value
  | busReady =>
    -- Only the plain bus is asked, and it is ready.
    show b.busReady.1 = b'.busReady.1 ∧ Alike b.busReady.2 b'.busReady.2
    rw [busReady_of_i2c h.i2c, busReady_of_direct h.direct]
    refine ⟨rfl, h.of_seen rfl rfl rfl h.speaksI2c ?_⟩
    rw [h.seen, seen_record_of_transport rfl]
  | drive level =>
    obtain ⟨hvalue, hview⟩ := seen_driveLine level b
    obtain ⟨hvalue', hview'⟩ := seen_driveLine level b'
    rw [h.seen] at hvalue hview
    obtain ⟨htransport, hdevice, hchip⟩ := kept_driveLine level b
    refine ⟨hvalue.trans hvalue'.symm, h.of_seen htransport hdevice (kept_driveLine level b').1 ?_
      (hview.trans hview'.symm)⟩
    exact hchip.symm ▸ h.speaksI2c
  | delay ms =>
    refine ⟨rfl, h.of_seen rfl rfl rfl h.speaksI2c ?_⟩
    exact (seen_record rfl b).trans (h.seen ▸ (seen_record rfl b').symm)
  | note notice =>
    refine ⟨rfl, h.of_seen rfl rfl rfl h.speaksI2c ?_⟩
    exact (seen_record rfl b).trans (h.seen ▸ (seen_record rfl b').symm)

/-! ### A plain chip -/

/-- A read that succeeds answers what was last written into the register, or what it held at
first. -/
def ReadsLatest (regs : Haptic.Registers) (before : List (Exchange Haptic.Peripheral)) :
    Exchange Haptic.Peripheral → Prop
  | ⟨.read register, x⟩ => ∀ v, x = .ok v → v = Haptic.registersAfter regs before register
  | _ => True

/-- Straight on a plain chip. -/
structure OnPlainChip (b : HapticBench) : Prop where
  direct : b.transport = .direct true
  plain : b.chip.IsPlain

/-- A plain chip answers what it holds, and holds what the history says. -/
theorem OnPlainChip.serve (h : b.OnPlainChip) (r : Haptic.Request) :
    ReadsLatest b.chip.registers [] ⟨r, (serve r b).1⟩ ∧
      (serve r b).2.chip.registers = Haptic.store b.chip.registers ⟨r, (serve r b).1⟩ ∧
      (serve r b).2.OnPlainChip := by
  cases r with
  | read register =>
    have hserve : HapticBench.serve (.read register) b = b.readChip register :=
      readRegister_of_direct h.direct register
    obtain ⟨hvalue, hregisters, hkept⟩ := h.plain.read register
    rw [hserve]
    exact ⟨hvalue, hregisters, h.direct, hkept⟩
  | write register value =>
    have hserve : HapticBench.serve (.write register value) b = b.writeChip register value :=
      writeRegister_of_direct h.direct register value
    obtain ⟨hregisters, hkept⟩ := h.plain.write register value
    rw [hserve]
    refine ⟨trivial, ?_, h.direct, hkept⟩
    -- A write that was refused stores nothing, here as on the chip.
    refine hregisters.trans ?_
    show _ = Haptic.store b.chip.registers ⟨.write register value, (b.chip.write register value).1⟩
    cases (b.chip.write register value).1 <;> rfl
  | busReady =>
    have hserve : HapticBench.serve .busReady b = (true, b.record (.ready .bus true)) :=
      busReady_of_direct h.direct
    rw [hserve]
    exact ⟨trivial, rfl, h.direct, h.plain⟩
  | drive level =>
    obtain ⟨htransport, -, hchip⟩ := kept_driveLine level b
    exact ⟨trivial, congrArg Chip.registers hchip, htransport.trans h.direct, hchip.symm ▸ h.plain⟩
  | delay ms => exact ⟨trivial, rfl, h.direct, h.plain⟩
  | note notice => exact ⟨trivial, rfl, h.direct, h.plain⟩

/-- Whatever is asked of a plain chip, it is read as it was written. -/
theorem OnPlainChip.readsLatest {α : Type} (h : b.OnPlainChip)
    (p : Program Haptic.Peripheral α) :
    Throughout (ReadsLatest b.chip.registers) (p.history HapticBench.serve b) := by
  induction p generalizing b with
  | done a => exact throughout_nil
  | ask r next ih =>
    obtain ⟨hread, hregisters, hkept⟩ := h.serve r
    rw [Program.history, throughout_cons]
    refine ⟨hread, ?_⟩
    -- What comes after starts from the registers that this exchange has left.
    have hrest := ih (HapticBench.serve r b).1 hkept
    rw [hregisters] at hrest
    intro before e after ht
    have he := hrest before e after ht
    obtain ⟨request, x⟩ := e
    cases request with
    | read register => exact he
    | _ => trivial

/-! ### An address at which no chip answers -/

/-- An access that was not acknowledged. -/
def Unacknowledged : Exchange Haptic.Peripheral → Prop
  | ⟨.read _, x⟩ => x = .error (.i2c (.noAcknowledge .address))
  | ⟨.write _ _, x⟩ => x = .error (.i2c (.noAcknowledge .address))
  | _ => True

/-- A bench that speaks to an address at which no chip answers, with the given chip elsewhere. -/
structure Elsewhere (c : Chip) (b : HapticBench) : Prop where
  address : ∃ address, b.transport = .i2c address ∧ address ≠ b.device
  chip : b.chip = c

/-- At any other address a transaction is not acknowledged. -/
theorem serveI2c_elsewhere {r : Bus.I2cRequest} (hr : r.address ≠ b.device) :
    serveI2c r b =
      (.error (.noAcknowledge .address), (b.addressed r).record (.nack r.address)) := by
  rw [serveI2c_eq, if_neg hr]

theorem Elsewhere.of_eq {c : Chip} (h : Elsewhere c b) (htransport : b'.transport = b.transport)
    (hdevice : b'.device = b.device) (hchip : b'.chip = b.chip) : Elsewhere c b' where
  address := by rw [htransport, hdevice]; exact h.address
  chip := hchip.trans h.chip

/-- No access is acknowledged, and nothing changes the chip. -/
theorem Elsewhere.serve {c : Chip} (r : Haptic.Request) (b : HapticBench) (h : Elsewhere c b) :
    Unacknowledged ⟨r, (serve r b).1⟩ ∧ Elsewhere c (serve r b).2 := by
  obtain ⟨address, htransport, hne⟩ := h.address
  -- A transaction that is not acknowledged leaves the chip alone.
  have hkept : ∀ request, Elsewhere c ((b.addressed request).record (.nack address)) := by
    intro request
    obtain ⟨trace, haddressed⟩ := addressed_eq b request
    rw [haddressed]
    exact h.of_eq rfl rfl rfl
  cases r with
  | read register =>
    show Unacknowledged ⟨.read register, (b.readRegister register).1⟩ ∧
      Elsewhere c (b.readRegister register).2
    rw [readRegister_of_i2c htransport, serveI2c_elsewhere hne]
    exact ⟨rfl, hkept _⟩
  | write register value =>
    show Unacknowledged ⟨.write register value, (b.writeRegister register value).1⟩ ∧
      Elsewhere c (b.writeRegister register value).2
    rw [writeRegister_of_i2c htransport, serveI2c_elsewhere hne]
    exact ⟨rfl, hkept _⟩
  | busReady =>
    have hserve : HapticBench.serve .busReady b = (true, b) := busReady_of_i2c htransport
    rw [hserve]
    exact ⟨trivial, h⟩
  | drive level =>
    obtain ⟨hsame, hdevice, hchip⟩ := kept_driveLine level b
    exact ⟨trivial, h.of_eq hsame hdevice hchip⟩
  | delay ms => exact ⟨trivial, h.of_eq rfl rfl rfl⟩
  | note notice => exact ⟨trivial, h.of_eq rfl rfl rfl⟩

/-! ### Transparency -/

/-- The bench with the given transport. -/
def through (b : HapticBench) (transport : RegisterTransport) : HapticBench :=
  { b with transport }

/-- Bring a haptic driver up and, once it is up, carry out operations one after another. -/
def session (config : HapticConfig) (line : ControlLine) (ops : List Haptic.Operation) :
    Program Haptic.Peripheral
      (Except DriverError (List (Except DriverError Haptic.Reply) × Haptic)) := do
  match ← (Haptic.bringUp config line).run with
  | .error error => return .error error
  | .ok h => return .ok (← h.performAll ops)

/-- At the address of its chip, a session over I2C answers the same and leaves the same behind as
straight on the registers of a bus that is ready: registers, script and, the transport's own entries
aside, the same record.  A plain chip is read as it was written. -/
structure Transparent (b : HapticBench) (config : HapticConfig) (line : ControlLine)
    (ops : List Haptic.Operation) : Prop where
  result : ((session config line ops).run serve (b.through (.i2c b.device))).1 =
    ((session config line ops).run serve (b.through (.direct true))).1
  seen : ((session config line ops).run serve (b.through (.i2c b.device))).2.seen =
    ((session config line ops).run serve (b.through (.direct true))).2.seen
  readsLatest : b.chip.IsPlain → Throughout (ReadsLatest b.chip.registers)
    ((session config line ops).history serve (b.through (.i2c b.device)))

/-- Over I2C every run goes as it goes straight on the registers. -/
theorem transparent_of_speaksI2c (h : b.chip.SpeaksI2c) (config : HapticConfig)
    (line : ControlLine) (ops : List Haptic.Operation) : Transparent b config line ops := by
  have hstart : Alike (b.through (.i2c b.device)) (b.through (.direct true)) := ⟨rfl, rfl, h, rfl⟩
  obtain ⟨hhistory, hresult, hfinal⟩ := Program.run_related Alike.serve (session config line ops)
    hstart
  refine ⟨hresult, hfinal.seen, fun hplain => ?_⟩
  have hdirect : OnPlainChip (b.through (.direct true)) := ⟨rfl, hplain⟩
  rw [hhistory]
  exact hdirect.readsLatest (session config line ops)

/-- At any other address, whatever a program asks of the registers is not acknowledged, and the chip
stays as it is. -/
def DeafElsewhere (b : HapticBench) : Prop :=
  ∀ address, address ≠ b.device → ∀ (α : Type) (p : Program Haptic.Peripheral α),
    (∀ e ∈ p.history serve (b.through (.i2c address)), Unacknowledged e) ∧
      (p.run serve (b.through (.i2c address))).2.chip = b.chip

/-- Every access to an address without a chip is refused there. -/
theorem deafElsewhere (b : HapticBench) : DeafElsewhere b := by
  intro address haddress α p
  have hstart : Elsewhere b.chip (b.through (.i2c address)) := ⟨⟨address, rfl, haddress⟩, rfl⟩
  constructor
  · exact Program.forall_mem_history Elsewhere.serve p hstart
  · exact (Program.run_keeps (fun r c hc => (Elsewhere.serve r c hc).2) p hstart).chip

end HapticBench

/-! ### Both transports -/

/-- What a sensor and a chip that can sit on the two buses answer comes to the drivers as if there
were no transport between them, and on an I2C bus nothing else answers. -/
theorem transports_are_transparent (pad : TrackpadBench) (haptic : HapticBench) :
    (pad.SpeaksSpi → ∀ config shutdown acts, pad.Transparent config shutdown acts) ∧
      (haptic.chip.SpeaksI2c → ∀ config line ops, haptic.Transparent config line ops) ∧
      haptic.DeafElsewhere :=
  ⟨fun h => pad.transparent_of_speaksSpi h, fun h => haptic.transparent_of_speaksI2c h,
    haptic.deafElsewhere⟩

/-- A sensor whose transfers fail now and then, and let edges land. -/
def unsteadySensor : TrackpadBench where
  script := [⟨[], .byte 0⟩, ⟨[.interrupt], .silent⟩, ⟨[], .byte 0⟩, ⟨[.thread], .byte 0x80⟩,
    ⟨[], .fault (.spi .overrun)⟩, ⟨[], .byte 0x80⟩, ⟨[], .byte 3⟩, ⟨[], .byte 0xFF⟩]
  recordsRaw := true

/-- A plain chip that refuses the first write of the go register and the second read of the status
register. -/
def unsteadyChip : HapticBench where
  chip := {
    goSticks := true
    reads := fun r => if r = Haptic.Register.status then [.stored, .fault (.i2c .bus)] else []
    writes := fun r =>
      if r = Haptic.Register.go then [.fault (.i2c (.noAcknowledge .data))] else [] }

theorem transports_are_transparent_unsteady :
    unsteadySensor.SpeaksSpi ∧ unsteadyChip.chip.SpeaksI2c ∧ unsteadyChip.chip.IsPlain ∧
      (0x10 : UInt8) ≠ unsteadyChip.device ∧
      unsteadySensor.Transparent {} .wired
        [.perform .processPending, .land .thread, .perform .processPending, .perform .powerDown] ∧
      unsteadyChip.Transparent {} .wired [.playWaveform 1, .status, .stop] ∧
      unsteadyChip.DeafElsewhere := by
  -- The scripts hold faults of the right bus only.
  have hsensor : unsteadySensor.SpeaksSpi := by
    simp [TrackpadBench.SpeaksSpi, unsteadySensor, SensorAnswer.OverSpi]
  have hchip : unsteadyChip.chip.SpeaksI2c := by
    constructor
    · intro register
      simp only [unsteadyChip]
      split <;> simp [ReadItem.OverI2c]
    · intro register
      simp only [unsteadyChip]
      split <;> simp [WriteItem.OverI2c]
  have hplain : unsteadyChip.chip.IsPlain := by
    refine ⟨rfl, fun register => ?_⟩
    simp only [unsteadyChip]
    split <;> simp
  obtain ⟨hspi, hi2c, hdeaf⟩ := transports_are_transparent unsteadySensor unsteadyChip
  exact ⟨hsensor, hchip, hplain, by decide, hspi hsensor _ _ _, hi2c hchip _ _ _, hdeaf⟩

end TactilePad.Bench
