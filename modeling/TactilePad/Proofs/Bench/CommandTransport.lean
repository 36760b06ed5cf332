import TactilePad.Proofs.Bench.Trackpad

/-!
# Commands over SPI

* `TrackpadBench.transparent_of_speaksSpi`: a trackpad that reaches its sensor over SPI gets on as
  one that sits straight on the commands of a bus that is ready, and each of its commands is a
  single raw transaction.

Both benches are brought to the same view, which leaves out the transport and the entries that only
a transport records (`TrackpadBench.seen`); whatever the driver asks, benches of the same view give
the same answer and come to the same view again (`Alike.serve`).
-/

namespace TactilePad.Bench

open Bus (Segment)

/-- An entry that only a transport leaves. -/
def Entry.ofTransport : Entry → Bool
  | .ready .bus _ | .spi _ | .i2c _ _ => true
  | _ => false

theorem Entry.filter_cons_of_transport {e : Entry} (he : e.ofTransport = true)
    (trace : List Entry) :
    (e :: trace).filter (fun e => !e.ofTransport) = trace.filter fun e => !e.ofTransport := by
  rw [List.filter_cons_of_neg]
  rw [he]
  exact Bool.false_ne_true

theorem Entry.filter_cons_of_not_transport {e : Entry} (he : e.ofTransport = false)
    (trace : List Entry) :
    (e :: trace).filter (fun e => !e.ofTransport) = e :: trace.filter fun e => !e.ofTransport := by
  rw [List.filter_cons_of_pos]
  rw [he]
  rfl

/-- An entry of the exchange with the sensor: a raw transaction, or a command with its answer. -/
def Entry.onWire : Entry → Bool
  | .spi _ | .command _ _ => true
  | _ => false

/-- What an SPI device can answer: a fault is one of SPI. -/
def SensorAnswer.OverSpi : SensorAnswer → Prop
  | .fault f => ∃ g, f = .spi g
  | .byte _ | .silent => True

/-- The one transaction that a command is: a byte out, a byte in. -/
def exchangeOf (code : UInt8) : List Segment :=
  [.write [code], .read 1]

/-- The answer comes back from the device as it was given. -/
theorem SensorAnswer.received_overSpi {answer : SensorAnswer} (h : answer.OverSpi) (code : UInt8) :
    ((answer.overSpi (exchangeOf code)).map Bus.firstByte).mapError .spi = answer.received := by
  cases answer with
  | byte b => rfl
  | silent => rfl
  | fault f =>
    obtain ⟨g, rfl⟩ := h
    rfl

namespace TrackpadBench

variable {b b' : TrackpadBench}

/-! ### The view without the transport -/

/-- The bench without its transport, and without the entries that only a transport leaves. -/
def seen (b : TrackpadBench) : TrackpadBench :=
  { b with transport := .direct true, trace := b.trace.filter fun e => !e.ofTransport }

theorem seen_record {e : Entry} (he : e.ofTransport = false) (b : TrackpadBench) :
    (b.record e).seen = b.seen.record e := by
  rw [seen, record, Entry.filter_cons_of_not_transport he]
  rfl

theorem seen_record_of_transport {e : Entry} (he : e.ofTransport = true) (b : TrackpadBench) :
    (b.record e).seen = b.seen := by
  rw [seen, record, Entry.filter_cons_of_transport he]
  rfl

theorem seen_landRecorded (b : TrackpadBench) (origin : Edge) :
    (b.landRecorded origin).seen = b.seen.landRecorded origin :=
  seen_record rfl _

theorem seen_foldl_landRecorded (edges : List Edge) (b : TrackpadBench) :
    (edges.foldl landRecorded b).seen = edges.foldl landRecorded b.seen := by
  induction edges generalizing b with
  | nil => rfl
  | cons origin edges ih => rw [List.foldl_cons, ih, seen_landRecorded, List.foldl_cons]

/-- Edges that land on a read are seen. -/
theorem seen_landOnRead (code : UInt8) (b : TrackpadBench) :
    (b.landOnRead code).seen = b.seen.landOnRead code := by
  have hedges : b.seen.edgesOnRead = b.edgesOnRead := rfl
  unfold landOnRead
  rw [hedges]
  cases b.edgesOnRead with
  | zero => rfl
  | succ n =>
    by_cases hread : code = Trackpad.Command.readMotion.code
    · simp only [if_pos hread]
      exact seen_landRecorded _ _
    · simp only [if_neg hread]

/-- The sensor answers by the view alone. -/
theorem seen_answer (code : UInt8) (b : TrackpadBench) :
    (b.answer code).1 = (b.seen.answer code).1 ∧
      (b.answer code).2.seen = (b.seen.answer code).2 := by
  have hscript : (b.seen.landOnRead code).script = (b.landOnRead code).script := by
    rw [← seen_landOnRead]
    rfl
  constructor
  · simp only [answer, hscript]
  · simp only [answer, hscript]
    rw [seen_record rfl, seen_foldl_landRecorded, ← seen_landOnRead]
    rfl

theorem seen_driveLine (level : Bool) (b : TrackpadBench) :
    (b.driveLine level).1 = (b.seen.driveLine level).1 ∧
      (b.driveLine level).2.seen = (b.seen.driveLine level).2 := by
  have hfaults : b.seen.lineFaults = b.lineFaults := rfl
  unfold driveLine
  rw [hfaults]
  cases b.lineFaults with
  | zero => exact ⟨rfl, seen_record rfl b⟩
  | succ n => exact ⟨rfl, seen_record rfl _⟩

theorem seen_irqReady (b : TrackpadBench) :
    b.irqReady.1 = b.seen.irqReady.1 ∧ b.irqReady.2.seen = b.seen.irqReady.2 := by
  have hline : b.seen.motionLine = b.motionLine := rfl
  unfold irqReady
  rw [hline]
  cases b.motionLine with
  | full ready => exact ⟨rfl, seen_record rfl b⟩
  | plain => exact ⟨rfl, rfl⟩

/-- A report goes by the view alone: the sink and its channel are seen. -/
theorem seen_report (e : InputEvent) (b : TrackpadBench) :
    (b.report e).seen = b.seen.report e := by
  have hsink : (b.seen.record (.event e)).sink = (b.record (.event e)).sink := rfl
  unfold report
  simp only [hsink]
  cases (b.record (.event e)).sink with
  | recorder => exact seen_record rfl b
  | channel sink channel =>
    simp only
    cases (sink.report channel e).record? with
    | none =>
      simp only
      rw [← seen_record rfl b]
      rfl
    | some r =>
      simp only
      rw [seen_record rfl, ← seen_record rfl b]
      rfl

/-! ### Benches of the same view -/

/-- The bench as it is before the sensor answers over SPI: the raw transaction is recorded. -/
def addressed (code : UInt8) (b : TrackpadBench) : TrackpadBench :=
  if b.recordsRaw then b.record (.spi (exchangeOf code)) else b

/-- Over SPI a command is one transaction, which answers its first byte. -/
theorem transact_spi (hspi : b.transport = .spi) (code : UInt8) :
    b.transact code =
      ((((b.addressed code).answer code).1.overSpi (exchangeOf code)).map Bus.firstByte |>.mapError
        .spi, ((b.addressed code).answer code).2) := by
  unfold transact
  rw [hspi]
  rfl

theorem seen_addressed (code : UInt8) (b : TrackpadBench) : (b.addressed code).seen = b.seen := by
  unfold addressed
  split
  · exact seen_record_of_transport rfl b
  · rfl

theorem addressed_script (code : UInt8) (b : TrackpadBench) :
    (b.addressed code).script = b.script := by
  unfold addressed
  split <;> rfl

/-- Edges leave everything but the work and the record alone. -/
theorem foldl_landRecorded_eq (edges : List Edge) (b : TrackpadBench) :
    ∃ work trace, edges.foldl landRecorded b = { b with work, trace } := by
  induction edges generalizing b with
  | nil => exact ⟨b.work, b.trace, rfl⟩
  | cons origin edges ih =>
    obtain ⟨work, trace, h⟩ := ih (b.landRecorded origin)
    exact ⟨work, trace, h⟩

/-- A read leaves everything but the work, the edges that wait for it and the record alone. -/
theorem landOnRead_eq (code : UInt8) (b : TrackpadBench) :
    ∃ edgesOnRead work trace, b.landOnRead code = { b with edgesOnRead, work, trace } := by
  unfold landOnRead
  split
  · exact ⟨b.edgesOnRead, b.work, b.trace, rfl⟩
  · split
    · exact ⟨_, _, _, rfl⟩
    · exact ⟨b.edgesOnRead, b.work, b.trace, rfl⟩

/-- The answer is the next response of the script, which is used up; beyond that, only edges that
land leave something behind. -/
theorem answer_eq (code : UInt8) (b : TrackpadBench) :
    (b.answer code).1 = (SensorResponse.next b.script).1.answer ∧
      ∃ edgesOnRead work trace, (b.answer code).2 =
        { b with script := (SensorResponse.next b.script).2, edgesOnRead, work, trace } := by
  obtain ⟨edgesOnRead, work, trace, hread⟩ := landOnRead_eq code b
  unfold answer
  rw [hread]
  refine ⟨rfl, ?_⟩
  obtain ⟨work', trace', hland⟩ := foldl_landRecorded_eq (SensorResponse.next b.script).1.edges
    { b with script := (SensorResponse.next b.script).2, edgesOnRead, work, trace }
  dsimp only
  rw [hland]
  exact ⟨edgesOnRead, work', _, rfl⟩

/-- Every response of the script is one that an SPI device can give. -/
def SpeaksSpi (b : TrackpadBench) : Prop :=
  ∀ response ∈ b.script, response.answer.OverSpi

/-- The next response can be given over SPI, and so can all that come after it. -/
theorem SpeaksSpi.next (h : b.SpeaksSpi) :
    (SensorResponse.next b.script).1.answer.OverSpi ∧
      ∀ response ∈ (SensorResponse.next b.script).2, response.answer.OverSpi := by
  unfold SpeaksSpi at h
  cases hs : b.script with
  | nil =>
    rw [SensorResponse.next]
    exact ⟨trivial, List.forall_mem_nil _⟩
  | cons response script =>
    rw [hs, List.forall_mem_cons] at h
    exact h

/-- A bench over SPI and one straight on the commands of a bus that is ready, of the same view. -/
structure Alike (b b' : TrackpadBench) : Prop where
  spi : b.transport = .spi
  direct : b'.transport = .direct true
  speaksSpi : b.SpeaksSpi
  seen : b.seen = b'.seen

/-- Benches stay of the same view where neither transport nor script are touched. -/
theorem Alike.of_seen (h : Alike b b') {c c' : TrackpadBench} (hspi : c.transport = b.transport)
    (hdirect : c'.transport = b'.transport) (hscript : c.script = b.script)
    (hseen : c.seen = c'.seen) : Alike c c' where
  spi := hspi.trans h.spi
  direct := hdirect.trans h.direct
  speaksSpi response hr := h.speaksSpi response (hscript ▸ hr)
  seen := hseen

/-- What goes by the view alone goes the same way on benches of the same view. -/
theorem Alike.of_view {α : Type} (h : Alike b b') {f : TrackpadBench → α × TrackpadBench}
    (hf : ∀ c, (f c).1 = (f c.seen).1 ∧ (f c).2.seen = (f c.seen).2)
    (hkeeps : ∀ c, (f c).2.transport = c.transport ∧ (f c).2.script = c.script) :
    (f b).1 = (f b').1 ∧ Alike (f b).2 (f b').2 := by
  obtain ⟨hvalue, hview⟩ := hf b
  obtain ⟨hvalue', hview'⟩ := hf b'
  refine ⟨?_, h.of_seen (hkeeps b).1 (hkeeps b').1 (hkeeps b).2 ?_⟩
  · rw [hvalue, hvalue', h.seen]
  · rw [hview, hview', h.seen]

theorem answer_transport (code : UInt8) (b : TrackpadBench) :
    (b.answer code).2.transport = b.transport := by
  obtain ⟨-, edgesOnRead, work, trace, h⟩ := answer_eq code b
  rw [h]

theorem answer_script (code : UInt8) (b : TrackpadBench) :
    (b.answer code).2.script = (SensorResponse.next b.script).2 := by
  obtain ⟨-, edgesOnRead, work, trace, h⟩ := answer_eq code b
  rw [h]

/-- A command is answered alike: over SPI the sensor is the device, and nothing gets lost on the
way. -/
theorem Alike.transact (h : Alike b b') (code : UInt8) :
    (b.transact code).1 = (b'.transact code).1 ∧
      Alike (b.transact code).2 (b'.transact code).2 := by
  obtain ⟨hvalue, hview⟩ := seen_answer code (b.addressed code)
  obtain ⟨hvalue', hview'⟩ := seen_answer code b'
  have hanswer := (answer_eq code (b.addressed code)).1
  have hscript := answer_script code (b.addressed code)
  rw [addressed_script] at hanswer hscript
  rw [seen_addressed, h.seen] at hvalue hview
  have hdirect : b'.transact code = ((b'.answer code).1.received, (b'.answer code).2) := by
    unfold TrackpadBench.transact
    rw [h.direct]
  rw [transact_spi h.spi, hdirect]
  constructor
  · -- The next response is one of SPI, which comes through as it is.
    rw [SensorAnswer.received_overSpi (hanswer ▸ h.speaksSpi.next.1), hvalue, hvalue']
  · have htransport : ((b.addressed code).answer code).2.transport = b.transport := by
      rw [answer_transport, addressed]
      split <;> rfl
    refine ⟨htransport.trans h.spi, (answer_transport code b').trans h.direct, ?_, ?_⟩
    · intro response hr
      exact h.speaksSpi.next.2 response (hscript ▸ hr)
    · rw [hview, hview']

/-- Whatever the driver asks, the answers are the same. -/
theorem Alike.serve (r : Trackpad.Request) (b b' : TrackpadBench) (h : Alike b b') :
    (serve r b).1 = (serve r b').1 ∧ Alike (serve r b).2 (serve r b').2 := by
  cases r with
  | command c => exact h.transact c.code
  | busReady =>
    -- Only the plain bus is asked, and it is ready.
    show b.busReady.1 = b'.busReady.1 ∧ Alike b.busReady.2 b'.busReady.2
    rw [busReady_of_spi h.spi, busReady_of_direct h.direct]
    refine ⟨rfl, h.of_seen rfl rfl rfl ?_⟩
    rw [h.seen, seen_record_of_transport rfl]
  | irqReady =>
    -- All but the commands and the bus goes by the view alone.
    refine h.of_view (f := irqReady) seen_irqReady fun c => ?_
    unfold irqReady
    split <;> exact ⟨rfl, rfl⟩
  | drive level =>
    refine h.of_view (f := driveLine level) (seen_driveLine level) fun c => ?_
    unfold driveLine
    split <;> exact ⟨rfl, rfl⟩
  | report e =>
    refine h.of_view (f := fun c => ((), c.report e)) (fun c => ⟨rfl, seen_report e c⟩) fun c => ?_
    unfold TrackpadBench.report
    dsimp only
    split
    · exact ⟨rfl, rfl⟩
    · split <;> exact ⟨rfl, rfl⟩
  | arm => exact h.of_view (f := arm) (fun c => ⟨rfl, seen_record rfl c⟩) fun c => ⟨rfl, rfl⟩
  | delay ms =>
    exact h.of_view (f := fun c => ((), c.record (.delay ms)))
      (fun c => ⟨rfl, seen_record rfl c⟩) fun c => ⟨rfl, rfl⟩
  | note notice =>
    exact h.of_view (f := fun c => ((), c.record (.log notice.record)))
      (fun c => ⟨rfl, seen_record rfl c⟩) fun c => ⟨rfl, rfl⟩
  | claim => exact h.of_view (f := TrackpadBench.claim) (fun c => ⟨rfl, rfl⟩) fun c => ⟨rfl, rfl⟩
  | awaitRun =>
    exact h.of_view (f := fun c => ((), c.pollFresh.2)) (fun c => ⟨rfl, rfl⟩) fun c => ⟨rfl, rfl⟩

/-- On benches of the same view, every program goes the same way. -/
theorem Alike.run {α : Type} (h : Alike b b') (p : Program Trackpad.Peripheral α) :
    (p.run TrackpadBench.serve b).1 = (p.run TrackpadBench.serve b').1 ∧
      Alike (p.run TrackpadBench.serve b).2 (p.run TrackpadBench.serve b').2 :=
  (Program.run_related (I := Trackpad.Peripheral) Alike.serve p h).2

/-! ### Sessions -/

/-- What can be done with a trackpad that is up. -/
inductive Act
  | perform (op : Trackpad.Operation)
  /-- A motion edge lands between two operations. -/
  | land (origin : Edge)

/-- What comes of it. -/
inductive Outcome
  | replied (reply : Except DriverError Trackpad.Reply)
  /-- An edge landed; `fresh` if it scheduled a run. -/
  | landed (fresh : Bool)

def act (pad : Trackpad) (b : TrackpadBench) : Act → (Outcome × Trackpad) × TrackpadBench
  | .perform op =>
    let done := b.perform pad op
    ((.replied done.1.1, done.1.2), done.2)
  | .land origin =>
    let landed := b.land origin
    ((.landed landed.1, pad), landed.2)

/-- Do one thing after another. -/
def actAll (pad : Trackpad) (b : TrackpadBench) :
    List Act → (List Outcome × Trackpad) × TrackpadBench
  | [] => (([], pad), b)
  | a :: acts =>
    let done := b.act pad a
    let rest := done.2.actAll done.1.2 acts
    ((done.1.1 :: rest.1.1, rest.1.2), rest.2)

/-- Bring a trackpad up and, once it is up, do one thing after another. -/
def session (config : TrackpadConfig) (shutdown : ControlLine) (acts : List Act)
    (b : TrackpadBench) : Except DriverError (List Outcome × Trackpad) × TrackpadBench :=
  match b.bringUp config shutdown with
  | (.error error, b) => (.error error, b)
  | (.ok pad, b) =>
    let done := b.actAll pad acts
    (.ok done.1, done.2)

/-- An act comes out alike, and leaves benches of the same view. -/
theorem Alike.act (h : Alike b b') (pad : Trackpad) (a : Act) :
    (b.act pad a).1 = (b'.act pad a).1 ∧ Alike (b.act pad a).2 (b'.act pad a).2 := by
  cases a with
  | perform op =>
    obtain ⟨hresult, hrest⟩ := h.run (pad.perform op)
    refine ⟨?_, hrest⟩
    simp only [TrackpadBench.act, TrackpadBench.perform, hresult]
  | land origin =>
    obtain ⟨hfresh, hrest⟩ := h.of_view (f := TrackpadBench.land origin) (fun c => ⟨rfl, rfl⟩)
      fun c => ⟨rfl, rfl⟩
    refine ⟨?_, hrest⟩
    simp only [TrackpadBench.act, hfresh]

theorem Alike.actAll (h : Alike b b') (pad : Trackpad) (acts : List Act) :
    (b.actAll pad acts).1 = (b'.actAll pad acts).1 ∧
      Alike (b.actAll pad acts).2 (b'.actAll pad acts).2 := by
  induction acts generalizing b b' pad with
  | nil => exact ⟨rfl, h⟩
  | cons a acts ih =>
    obtain ⟨hresult, halike⟩ := h.act pad a
    obtain ⟨hrest, hfinal⟩ := ih halike (b.act pad a).1.2
    rw [hresult] at hrest hfinal
    unfold TrackpadBench.actAll
    dsimp only
    rw [hresult]
    exact ⟨by rw [hrest], hfinal⟩

/-- On benches of the same view, a whole session goes the same way. -/
theorem Alike.session (h : Alike b b') (config : TrackpadConfig) (shutdown : ControlLine)
    (acts : List Act) :
    (b.session config shutdown acts).1 = (b'.session config shutdown acts).1 ∧
      Alike (b.session config shutdown acts).2 (b'.session config shutdown acts).2 := by
  have hup : (b.bringUp config shutdown).1 = (b'.bringUp config shutdown).1 ∧
      Alike (b.bringUp config shutdown).2 (b'.bringUp config shutdown).2 := h.run _
  unfold TrackpadBench.session
  -- Only the results of the two bring-ups matter from here on.
  generalize b.bringUp config shutdown = x at hup ⊢
  generalize b'.bringUp config shutdown = y at hup ⊢
  obtain ⟨result, c⟩ := x
  obtain ⟨_, c'⟩ := y
  obtain ⟨rfl, halike⟩ := hup
  cases result with
  | error error => exact ⟨rfl, halike⟩
  | ok pad =>
    obtain ⟨hdone, hfinal⟩ := halike.actAll pad acts
    exact ⟨congrArg Except.ok hdone, hfinal⟩

/-! ### Raw transactions -/

/-- The raw transactions and the commands, oldest first. -/
def wire (b : TrackpadBench) : List Entry :=
  b.trace.reverse.filter Entry.onWire

/-- What a command leaves on the wire. -/
def onWire (exchange : UInt8 × SensorAnswer) : List Entry :=
  [.spi (exchangeOf exchange.1), .command exchange.1 exchange.2]

/-- What was recorded since: one raw transaction for every command, right before it. -/
def Exchanged (b b' : TrackpadBench) : Prop :=
  ∃ exchanges : List (UInt8 × SensorAnswer), b'.wire = b.wire ++ exchanges.flatMap onWire

theorem exchanged_of_wire_eq (h : b'.wire = b.wire) : Exchanged b b' :=
  ⟨[], by rw [h, List.flatMap_nil, List.append_nil]⟩

theorem Exchanged.trans {b'' : TrackpadBench} (h : Exchanged b b') (h' : Exchanged b' b'') :
    Exchanged b b'' := by
  obtain ⟨first, hfirst⟩ := h
  obtain ⟨second, hsecond⟩ := h'
  exact ⟨first ++ second, by rw [hsecond, hfirst, List.flatMap_append, List.append_assoc]⟩

/-- A record is on the wire if it is of the exchange with the sensor. -/
theorem wire_record (b : TrackpadBench) (e : Entry) :
    (b.record e).wire = b.wire ++ if e.onWire then [e] else [] := by
  rw [wire, wire, record, List.reverse_cons, List.filter_append, List.filter_cons, List.filter_nil]

theorem wire_record_of_off {e : Entry} (he : e.onWire = false) (b : TrackpadBench) :
    (b.record e).wire = b.wire := by
  rw [wire_record, he]
  exact List.append_nil _

theorem wire_foldl_landRecorded (edges : List Edge) (b : TrackpadBench) :
    (edges.foldl landRecorded b).wire = b.wire := by
  induction edges generalizing b with
  | nil => rfl
  | cons origin edges ih =>
    have hland : (b.landRecorded origin).wire = b.wire := wire_record_of_off rfl _
    rw [List.foldl_cons, ih, hland]

/-- An answer of the sensor is on the wire, with the command that it is for. -/
theorem wire_answer (code : UInt8) (b : TrackpadBench) :
    (b.answer code).2.wire = b.wire ++ [.command code (b.answer code).1] := by
  -- An edge that lands on the read is recorded, but is not on the wire.
  have hread : (b.landOnRead code).wire = b.wire := by
    unfold landOnRead
    split
    · rfl
    · split
      · exact wire_record_of_off rfl _
      · rfl
  have hscript : { b.landOnRead code with
      script := (SensorResponse.next (b.landOnRead code).script).2 }.wire = b.wire := hread
  unfold answer
  dsimp only
  rw [wire_record, wire_foldl_landRecorded, hscript]
  rfl

/-- A bench over SPI that records raw transactions, and what it has recorded since. -/
structure Tapped (b b' : TrackpadBench) : Prop where
  spi : b'.transport = .spi
  recordsRaw : b'.recordsRaw = true
  exchanged : Exchanged b b'

theorem Tapped.of_wire_eq (h : Tapped b b') {c : TrackpadBench}
    (htransport : c.transport = b'.transport) (hraw : c.recordsRaw = b'.recordsRaw)
    (hwire : c.wire = b'.wire) : Tapped b c where
  spi := htransport.trans h.spi
  recordsRaw := hraw.trans h.recordsRaw
  exchanged := h.exchanged.trans (exchanged_of_wire_eq hwire)

/-- Records of anything else are not on the wire. -/
theorem Tapped.record (h : Tapped b b') {e : Entry} (he : e.onWire = false) :
    Tapped b (b'.record e) :=
  h.of_wire_eq rfl rfl (wire_record_of_off he b')

/-- A command is one transaction. -/
theorem Tapped.transact (h : Tapped b b') (code : UInt8) : Tapped b (b'.transact code).2 := by
  rw [transact_spi h.spi]
  have haddressed : b'.addressed code = b'.record (.spi (exchangeOf code)) := by
    unfold addressed
    rw [if_pos h.recordsRaw]
  obtain ⟨-, edgesOnRead, work, trace, hanswer⟩ := answer_eq code (b'.addressed code)
  -- Between the two entries of the command, at most edges were recorded.
  refine ⟨?_, ?_, h.exchanged.trans ⟨[(code, ((b'.addressed code).answer code).1)], ?_⟩⟩
  · rw [hanswer, haddressed]
    exact h.spi
  · rw [hanswer, haddressed]
    exact h.recordsRaw
  · rw [wire_answer, haddressed, wire_record, List.append_assoc]
    rfl

/-- Only a command gets on the wire, whatever the driver asks. -/
theorem Tapped.serve (r : Trackpad.Request) (b' : TrackpadBench) (h : Tapped b b') :
    Tapped b (serve r b').2 := by
  cases r with
  | command c => exact h.transact c.code
  | busReady =>
    show Tapped b b'.busReady.2
    rw [busReady_of_spi h.spi]
    exact h
  | irqReady =>
    show Tapped b b'.irqReady.2
    unfold TrackpadBench.irqReady
    split
    · exact h.record rfl
    · exact h
  | drive level =>
    show Tapped b (b'.driveLine level).2
    unfold driveLine
    split
    · exact h.record rfl
    · exact h.of_wire_eq rfl rfl (wire_record_of_off rfl _)
  | report e =>
    have hevent : Tapped b (b'.record (.event e)) := h.record rfl
    -- A channel may log the event it drops; neither the event nor the line is on the wire.
    show Tapped b (b'.report e)
    unfold TrackpadBench.report
    dsimp only
    split
    · exact hevent
    · split
      · exact hevent.of_wire_eq rfl rfl (wire_record_of_off rfl _)
      · exact hevent.of_wire_eq rfl rfl rfl
  | arm => exact h.record rfl
  | delay ms => exact h.record rfl
  | note notice => exact h.record rfl
  | claim => exact h.of_wire_eq rfl rfl rfl
  | awaitRun => exact h.of_wire_eq rfl rfl rfl

/-- Whatever a driver runs, one transaction is recorded for each of its commands. -/
theorem Tapped.run {α : Type} (h : Tapped b b') (p : Program Trackpad.Peripheral α) :
    Tapped b (p.run TrackpadBench.serve b').2 :=
  Program.run_keeps (I := Trackpad.Peripheral) Tapped.serve p h

theorem Tapped.actAll (h : Tapped b b') (pad : Trackpad) (acts : List Act) :
    Tapped b (b'.actAll pad acts).2 := by
  induction acts generalizing b' pad with
  | nil => exact h
  | cons a acts ih =>
    have hact : Tapped b (b'.act pad a).2 := by
      cases a with
      | perform op => exact h.run (pad.perform op)
      | land origin => exact h.of_wire_eq rfl rfl rfl
    exact ih hact (b'.act pad a).1.2

theorem Tapped.session (h : Tapped b b') (config : TrackpadConfig) (shutdown : ControlLine)
    (acts : List Act) : Tapped b (b'.session config shutdown acts).2 := by
  have hup : Tapped b (b'.bringUp config shutdown).2 := h.run _
  unfold TrackpadBench.session
  generalize b'.bringUp config shutdown = x at hup ⊢
  obtain ⟨error | pad, c⟩ := x
  · exact hup
  · exact hup.actAll pad acts

/-! ### Transparency -/

/-- The bench with the given transport. -/
def through (b : TrackpadBench) (transport : CommandTransport) : TrackpadBench :=
  { b with transport }

/-- Over SPI, a session answers the same and leaves the same behind as straight on the commands of a
bus that is ready: work, sink, script and, the transport's own entries aside, the same record of
events, log, commands and answers.  Each command is one raw transaction. -/
structure Transparent (b : TrackpadBench) (config : TrackpadConfig) (shutdown : ControlLine)
    (acts : List Act) : Prop where
  result : ((b.through .spi).session config shutdown acts).1 =
    ((b.through (.direct true)).session config shutdown acts).1
  seen : ((b.through .spi).session config shutdown acts).2.seen =
    ((b.through (.direct true)).session config shutdown acts).2.seen
  exchanged : b.recordsRaw = true →
    Exchanged (b.through .spi) ((b.through .spi).session config shutdown acts).2

/-- Over SPI every session goes as it goes straight on the commands. -/
theorem transparent_of_speaksSpi (h : b.SpeaksSpi) (config : TrackpadConfig)
    (shutdown : ControlLine) (acts : List Act) : Transparent b config shutdown acts := by
  have hstart : Alike (b.through .spi) (b.through (.direct true)) := ⟨rfl, rfl, h, rfl⟩
  obtain ⟨hresult, hfinal⟩ := hstart.session config shutdown acts
  refine ⟨hresult, hfinal.seen, fun hraw => ?_⟩
  have htapped : Tapped (b.through .spi) (b.through .spi) := ⟨rfl, hraw, exchanged_of_wire_eq rfl⟩
  exact (htapped.session config shutdown acts).exchanged

end TrackpadBench

end TactilePad.Bench
