import TactilePad.Proofs.Bench.Scenes
import TactilePad.Proofs.Trackpad.Delivery

/-!
# The channel of the firmware

* `Session.Delivers.play`: in every session of the firmware, events go through its channel as in a
  run of `Trackpad.delivery`, so that what is shown there of torn and whole reports holds of the
  firmware.

Only the reports of the worker and the turns of the main thread touch the channel.
-/

namespace TactilePad.Bench

open Firmware

namespace FirmwareBench

/-- The channel with the sink of the worker. -/
def events (b : FirmwareBench) : SharedChannel where
  channel := b.channel
  sinks j := if j = 0 then b.sink else {}

/-! ### The worker -/

theorem events_landMany (n : Nat) (b : FirmwareBench) : (landMany n b).events = b.events := by
  induction n generalizing b with
  | zero => rfl
  | succ n ih =>
    have hland : b.land.events = b.events := by
      unfold land
      split <;> rfl
    rw [landMany, ih, hland]

/-- A report is one step of the channel. -/
theorem events_report (e : InputEvent) (b : FirmwareBench) :
    (b.report e).events = (b.events.step (.report 0 e)).2 := by
  -- The worker has the only sink, so the others stay as they were.
  have hsinks : ∀ sink : ChannelSink, (fun j => if j = 0 then sink else {}) =
      fun j => if j = 0 then sink else if j = 0 then b.sink else {} := by
    intro sink
    funext j
    by_cases hj : j = 0
    · rw [if_pos hj, if_pos hj]
    · rw [if_neg hj, if_neg hj, if_neg hj]
  have hreport : (b.report e).events =
      ⟨(b.sink.report b.channel e).channel,
        fun j => if j = 0 then (b.sink.report b.channel e).sink else {}⟩ := by
    unfold report
    dsimp only
    split <;> rfl
  rw [hreport, hsinks]
  rfl

/-- What is not reported does not touch the channel. -/
theorem events_serveTrackpad {r : Trackpad.Request} (hr : ∀ e, r ≠ .report e) (b : FirmwareBench) :
    (serveTrackpad r b).2.events = b.events := by
  cases r with
  | report e => exact absurd rfl (hr e)
  | drive level =>
    show (b.driveShutdown level).2.events = b.events
    unfold driveShutdown
    split <;> rfl
  | arm =>
    refine Program.run_keeps (I := Gpio.Controller)
      (P := fun b' : FirmwareBench => b'.events = b.events) ?_ _ rfl
    intro r b' hb'
    cases r <;> exact hb'
  | command c =>
    refine Program.run_keeps (I := Bus.Spi)
      (P := fun b' : FirmwareBench => b'.events = b.events) ?_ _ rfl
    intro segments b' hb'
    exact (events_landMany _ _).trans hb'
  | _ => rfl

/-- Every question is answered as in the scene of the channel. -/
theorem carriedBy_serveTrackpad (r : Trackpad.Request) :
    Trackpad.delivery.CarriedBy events serveTrackpad r := by
  refine Scene.carriedBy_of_events fun b => ⟨[], ?_⟩
  cases r with
  | report e => exact events_report e b
  | _ => exact events_serveTrackpad (by nofun) b

/-- Every program of the driver can be carried over to that scene. -/
theorem asks_carriedBy {α : Type} (p : Program Trackpad.Peripheral α) :
    p.Asks (Trackpad.delivery.CarriedBy events serveTrackpad) :=
  p.asks_true.mono fun r _ => carriedBy_serveTrackpad r

/-- A turn of the worker. -/
theorem delivery_work (pad : Trackpad) (b : FirmwareBench) :
    ∃ t, Trackpad.delivery.Runs ⟨b.events, .ready (.done (some pad))⟩ t
      ⟨(b.work pad).2.events, .ready (.done (some (b.work pad).1))⟩ := by
  fun_induction work pad b with
  | case1 pad b h outcome ih =>
    obtain ⟨t, hrest⟩ := ih
    obtain ⟨t', hrun⟩ := Scene.runs_of_run (some ∘ Prod.snd)
      (asks_carriedBy (pad.perform .processPending)) b.acknowledge
    have hperform : (pad.perform .processPending).run serveTrackpad b.acknowledge =
        ((.ok (.motion outcome.1.1), outcome.1.2), outcome.2) :=
      Program.run_bind serveTrackpad pad.processPending _ b.acknowledge
    rw [hperform] at hrun
    exact ⟨.called .processPending :: (t' ++ t),
      .cons (.called ⟨pad, rfl, rfl, rfl⟩) (hrun.trans hrest)⟩
  | case2 pad b h => exact ⟨[], .start⟩

/-! ### The main thread -/

theorem drain_receive {α : Type} (c : Channel α) : c.receive.2.drain.2 = c.drain.2 := by
  have hcapacity : c.receive.2.capacity = c.capacity := Channel.capacity_receive c
  simp only [Channel.drain, hcapacity]

/-- To drain a channel is to receive until nothing is queued. -/
theorem foldl_receive {n : Nat} {c : SharedChannel} (hn : c.channel.queue.length = n) :
    (List.replicate n ()).foldl (fun c e => Trackpad.delivery.happen e c) c =
      { c with channel := c.channel.drain.2 } := by
  induction n generalizing c with
  | zero =>
    obtain ⟨⟨capacity, queue, hle⟩, sinks⟩ := c
    obtain rfl := List.length_eq_zero_iff.mp hn
    rfl
  | succ n ih =>
    -- One receipt shortens the queue by one.
    have hlength : (c.step .receive).2.channel.queue.length = n := by
      show c.channel.receive.2.queue.length = n
      rw [Channel.queue_receive, List.length_tail, hn]
      exact Nat.add_sub_cancel n 1
    calc (List.replicate (n + 1) ()).foldl (fun c e => Trackpad.delivery.happen e c) c
        = { c with channel := c.channel.receive.2.drain.2 } := ih hlength
      _ = { c with channel := c.channel.drain.2 } := by rw [drain_receive]

/-- Following the events of the channel drains it, whatever comes of the ticks. -/
theorem events_consume (h : Haptic) (travel : Travel) (b : FirmwareBench) :
    (b.consume h travel).2.events = { b.events with channel := b.channel.drain.2 } :=
  view_consume events (fun _ _ _ => rfl) h travel b

/-- A turn of the main thread. -/
theorem delivery_consume (h : Haptic) (travel : Travel) (b : FirmwareBench)
    (stage : Stage Trackpad.Peripheral (Option Trackpad)) :
    ∃ t, Trackpad.delivery.Runs ⟨b.events, stage⟩ t ⟨(b.consume h travel).2.events, stage⟩ := by
  have hrun := Trackpad.delivery.runs_events (List.replicate b.channel.queue.length ()) b.events
    stage
  have hdrained := foldl_receive (c := b.events) rfl
  have hconsume : (b.consume h travel).2.events =
      { b.events with channel := b.events.channel.drain.2 } := events_consume h travel b
  rw [hconsume, ← hdrained]
  exact ⟨_, hrun⟩

end FirmwareBench

/-! ### Sessions -/

namespace Session

variable {config : TrackpadConfig} {s : Session}

/-- What has gone through the channel in the session is a run of the scene. -/
def Delivers (config : TrackpadConfig) (s : Session) : Prop :=
  ∃ t, Trackpad.delivery.Runs (Trackpad.deliveryStart config .wired eventCapacity) t
    ⟨s.bench.events, .ready (.done (some s.pad))⟩

/-- The session begins when the trackpad is up. -/
theorem delivers_bringUpTrackpad {b b' : FirmwareBench} {pad : Trackpad} (haptic : Haptic)
    (hb : b.events = Trackpad.emptyChannel eventCapacity)
    (hup : b.bringUpTrackpad config = (.ok pad, b')) :
    Delivers config { bench := b', haptic, pad } := by
  -- The lines that are set up first leave the channel alone.
  let b₀ := ((b.record (.spiDriver Pins.sensorClock Pins.sensorDataOut Pins.sensorDataIn)).record
    (.spiDevice Pins.sensorSelect sensorHertz sensorSpiMode)).record (.output Pins.shutdown)
  obtain ⟨t, hrun⟩ := Scene.runs_of_run (S := Trackpad.delivery) Except.toOption
    (FirmwareBench.asks_carriedBy (Trackpad.bringUp config .wired).run) b₀
  have hrun' : (Trackpad.bringUp config .wired).run.run FirmwareBench.serveTrackpad b₀ =
      (.ok pad, b') := hup
  have hstart : Trackpad.deliveryStart config .wired eventCapacity =
      ⟨b₀.events, .ready (Except.toOption <$> (Trackpad.bringUp config .wired).run)⟩ :=
    congrArg (Situation.mk · _) hb.symm
  rw [hrun'] at hrun
  exact ⟨t, hstart ▸ hrun⟩

/-- The turns of the threads are a run. -/
theorem Delivers.settle (h : s.Delivers config) : s.settle.Delivers config := by
  obtain ⟨t, hrun⟩ := h
  obtain ⟨t₁, hwork⟩ := FirmwareBench.delivery_work s.pad s.bench
  obtain ⟨t₂, hconsume⟩ := FirmwareBench.delivery_consume s.haptic s.travel (s.bench.work s.pad).2
    (.ready (.done (some (s.bench.work s.pad).1)))
  exact ⟨_, (hrun.trans hwork).trans hconsume⟩

/-- Whatever happens next in a session goes on with the run. -/
theorem Delivers.happen (h : s.Delivers config) (number : Nat) (step : SessionStep) :
    (s.happen number step).Delivers config := by
  obtain ⟨t, hrun⟩ := h
  refine ⟨t, ?_⟩
  have hevents : (s.happen number step).bench.events = s.bench.events :=
    FirmwareBench.events_landMany _ _
  rw [hevents]
  exact hrun

/-- Whatever happens to the firmware, the events go through its channel as in the scene. -/
theorem Delivers.play (h : s.Delivers config) (number : Nat) (steps : List SessionStep) :
    (s.play number steps).Delivers config := by
  induction steps generalizing s number with
  | nil => exact h
  | cons step steps ih => exact ih (h.happen number step).settle (number + 1)

end Session

end TactilePad.Bench
