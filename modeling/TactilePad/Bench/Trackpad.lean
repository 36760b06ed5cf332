import TactilePad.Bench.Sensor
import TactilePad.Bus.Spi
import TactilePad.Input.Channel
import TactilePad.Trackpad.Driver

/-!
# The trackpad bench

A trackpad driver on a scripted sensor, either straight on its commands or over SPI.  Motion edges
land where the script says, by a thread or by an interrupt, and are submitted to the work that
driver and interrupt share.  `TrackpadBench.serve` answers the driver's questions and records them.
-/

namespace TactilePad.Bench

/-- How the driver reaches the sensor. -/
inductive CommandTransport
  /-- Plain commands, on a bus that is ready or not. -/
  | direct (ready : Bool)
  | spi
  deriving DecidableEq, Repr

/-- The motion line. -/
inductive MotionLine
  /-- The line can be asked whether it is ready. -/
  | full (ready : Bool)
  /-- The line is always ready and is not asked. -/
  | plain
  deriving DecidableEq, Repr

/-- Where reported events go. -/
inductive EventSink
  /-- They are only recorded. -/
  | recorder
  /-- They go through a sink into a bounded channel. -/
  | channel (sink : ChannelSink) (channel : Channel InputEvent)

structure TrackpadBench where
  script : List SensorResponse := []
  transport : CommandTransport := .direct true
  motionLine : MotionLine := .full true
  /-- Arming the interrupt fails with this fault. -/
  armFault? : Option BusFault := none
  /-- How many of the next drives of the shutdown line fail. -/
  lineFaults : Nat := 0
  sink : EventSink := .recorder
  work : MotionWork := {}
  /-- On how many further motion reads an edge lands first. -/
  edgesOnRead : Nat := 0
  /-- Record raw transactions as well. -/
  recordsRaw : Bool := false
  /-- What was recorded, newest first. -/
  trace : List Entry := []

namespace TrackpadBench

def record (b : TrackpadBench) (e : Entry) : TrackpadBench :=
  { b with trace := e :: b.trace }

/-- The record since it was last taken, oldest first. -/
def takeTrace (b : TrackpadBench) : List Entry × TrackpadBench :=
  (b.trace.reverse, { b with trace := [] })

/-! ### Motion edges -/

/-- An edge arrives; the answer tells whether it scheduled a run. -/
def land (origin : Edge) (b : TrackpadBench) : Bool × TrackpadBench :=
  let (fresh, work) := b.work.land origin
  (fresh, { b with work })

/-- An edge arrives during a transfer, which the record shows. -/
def landRecorded (b : TrackpadBench) (origin : Edge) : TrackpadBench :=
  let (fresh, b) := b.land origin
  b.record (.edge origin fresh)

/-- A number of edges arrive one after another. -/
def landMany (origin : Edge) : Nat → TrackpadBench → List Bool × TrackpadBench
  | 0, b => ([], b)
  | n + 1, b =>
    let (fresh, b) := b.land origin
    let (rest, b) := landMany origin n b
    (fresh :: rest, b)

/-! ### The sensor -/

/-- The edge that lands ahead of a motion read, if one is still due. -/
def landOnRead (code : UInt8) (b : TrackpadBench) : TrackpadBench :=
  match b.edgesOnRead with
  | 0 => b
  | n + 1 =>
    if code = Trackpad.Command.readMotion.code then
      { b with edgesOnRead := n }.landRecorded .thread
    else b

/-- The sensor's answer to a command, after the edges that land during its transfer. -/
def answer (code : UInt8) (b : TrackpadBench) : SensorAnswer × TrackpadBench :=
  let b := b.landOnRead code
  let (response, script) := SensorResponse.next b.script
  let b := response.edges.foldl landRecorded { b with script }
  (response.answer, b.record (.command code response.answer))

/-- The sensor as an SPI device. -/
def serveSpi (segments : List Bus.Segment) (b : TrackpadBench) :
    Except SpiFault (List (List UInt8)) × TrackpadBench :=
  let b := if b.recordsRaw then b.record (.spi segments) else b
  let (answer, b) := b.answer (commandOf segments)
  (answer.overSpi segments, b)

/-! ### The driver's questions -/

/-- Exchange a command the way that the driver reaches the sensor. -/
def transact (code : UInt8) (b : TrackpadBench) : Except BusFault UInt8 × TrackpadBench :=
  match b.transport with
  | .direct _ =>
    let (answer, b) := b.answer code
    (answer.received, b)
  | .spi => (Bus.Spi.transact code).run serveSpi b

/-- Whether the bus is ready; a transport over SPI always is and is not asked. -/
def busReady (b : TrackpadBench) : Bool × TrackpadBench :=
  match b.transport with
  | .direct ready => (ready, b.record (.ready .bus ready))
  | .spi => (Bus.Spi.isReady, b)

theorem busReady_of_direct {b : TrackpadBench} {ready : Bool} (h : b.transport = .direct ready) :
    b.busReady = (ready, b.record (.ready .bus ready)) := by
  rw [busReady, h]

theorem busReady_of_spi {b : TrackpadBench} (h : b.transport = .spi) : b.busReady = (true, b) := by
  rw [busReady, h]
  rfl

def irqReady (b : TrackpadBench) : Bool × TrackpadBench :=
  match b.motionLine with
  | .full ready => (ready, b.record (.ready .irq ready))
  | .plain => (true, b)

def arm (b : TrackpadBench) : Except BusFault Unit × TrackpadBench :=
  (match b.armFault? with
    | some fault => .error fault
    | none => .ok (), b.record .arm)

/-- Drive the shutdown line; it refuses as often as the script says. -/
def driveLine (level : Bool) (b : TrackpadBench) : Except BusFault Unit × TrackpadBench :=
  match b.lineFaults with
  | 0 => (.ok (), b.record (.drive .shutdown level false))
  | n + 1 =>
    (.error (.gpio .other), { b with lineFaults := n }.record (.drive .shutdown level true))

def claim (b : TrackpadBench) : Bool × TrackpadBench :=
  let (claimed, work) := b.work.claim
  (claimed, { b with work })

/-- Poll a waiter that has just been started. -/
def pollFresh (b : TrackpadBench) : Bool × TrackpadBench :=
  let outcome := Waiter.fresh.poll b.work
  (outcome.ready, { b with work := outcome.work })

/-- Record an event and pass it to the sink. -/
def report (e : InputEvent) (b : TrackpadBench) : TrackpadBench :=
  let b := b.record (.event e)
  match b.sink with
  | .recorder => b
  | .channel sink channel =>
    let outcome := sink.report channel e
    let b := { b with sink := .channel outcome.sink outcome.channel }
    match outcome.record? with
    | some record => b.record (.log record)
    | none => b

def serve : (r : Trackpad.Request) → TrackpadBench → Trackpad.Peripheral.Answer r × TrackpadBench
  | .busReady, b => b.busReady
  | .irqReady, b => b.irqReady
  | .drive level, b => b.driveLine level
  | .arm, b => b.arm
  | .delay ms, b => ((), b.record (.delay ms))
  | .command c, b => b.transact c.code
  | .claim, b => b.claim
  | .awaitRun, b => ((), b.pollFresh.2)
  | .report e, b => ((), b.report e)
  | .note notice, b => ((), b.record (.log notice.record))

/-! ### Steps -/

/-- Bring a driver up on the bench. -/
def bringUp (b : TrackpadBench) (config : TrackpadConfig) (shutdown : ControlLine) :
    Except DriverError Trackpad × TrackpadBench :=
  (Trackpad.bringUp config shutdown).run.run serve b

/-- Carry out one operation. -/
def perform (b : TrackpadBench) (pad : Trackpad) (op : Trackpad.Operation) :
    (Except DriverError Trackpad.Reply × Trackpad) × TrackpadBench :=
  (pad.perform op).run serve b

/-- Take events out of the channel, one after another; nothing where it is empty. -/
def receive : Nat → TrackpadBench → List (Option InputEvent) × TrackpadBench
  | 0, b => ([], b)
  | n + 1, b =>
    match b.sink with
    | .recorder =>
      let (rest, b) := receive n b
      (none :: rest, b)
    | .channel sink channel =>
      let (event?, channel) := channel.receive
      let (rest, b) := receive n { b with sink := .channel sink channel }
      (event? :: rest, b)

/-- The number of events that the channel's sink has lost. -/
def dropped? (b : TrackpadBench) : Option UInt32 :=
  match b.sink with
  | .recorder => none
  | .channel sink _ => some sink.dropped

/-- Serve a number of runs, one after another. -/
def serviceMany : Nat → Trackpad → TrackpadBench → Trackpad × TrackpadBench
  | 0, pad, b => (pad, b)
  | n + 1, pad, b =>
    let ((_, pad), b) := pad.service.run serve b
    serviceMany n pad b

/-- The endless worker, stopped from outside: a first edge arrives, a further edge lands on each of
the first `n` motion reads, and the worker is stopped when it begins the next motion read, the run
being claimed already. -/
def runWorker (n : Nat) (pad : Trackpad) (b : TrackpadBench) : Trackpad × TrackpadBench :=
  let (_, b) := b.land .thread
  let (pad, b) := serviceMany n pad { b with edgesOnRead := n }
  (pad, b.pollFresh.2)

end TrackpadBench

end TactilePad.Bench
