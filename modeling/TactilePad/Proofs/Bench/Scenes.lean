import TactilePad.Bench.Session
import TactilePad.Proofs.Bench.Trackpad
import TactilePad.Proofs.Firmware.Notification
import TactilePad.Proofs.Threads
import TactilePad.Trackpad.Handoff

/-!
# Runs on the benches

A bench answers the questions of a thread and lets edges land while it does, so that whatever
happens on it is one of the ways in which the moments of a scene can follow one another.

* `Scene.runs_of_run`: a program runs on a bench as in a scene if each of its questions is answered
  as in the scene (`Scene.CarriedBy`);
* `TrackpadBench.runs_bringUp`, `TrackpadBench.runs_perform`: bring-up and operations on the
  trackpad bench are runs of `Trackpad.handoff`;
* `Session.Follows.play`: a session of the firmware in which nothing but edges wakes the worker is a
  run of `Firmware.worker`, and no run is left pending after the turns of its threads.
-/

namespace TactilePad

section

variable {I : Interface} {σ ε κ α β γ : Type} {S : Scene I σ ε κ α} {view : β → σ}
  {serve : (r : I.Request) → β → I.Answer r × β}

/-- What a bench does to answer the question is a run of the scene.  The bench has the shared state
of the scene in view. -/
def Scene.CarriedBy (S : Scene I σ ε κ α) (view : β → σ)
    (serve : (r : I.Request) → β → I.Answer r × β) (r : I.Request) : Prop :=
  ∀ (b : β) (next : I.Answer r → Program I α),
    ∃ t, S.Runs ⟨view b, .asking r next⟩ t ⟨view (serve r b).2, .ready (next (serve r b).1)⟩

/-- What remains of a call is a program on whose value the thread ends by `f`. -/
theorem Scene.runs_of_run (f : γ → α) {p : Program I γ} (hp : p.Asks (S.CarriedBy view serve))
    (b : β) : ∃ t, S.Runs ⟨view b, .ready (f <$> p)⟩ t
      ⟨view (p.run serve b).2, .ready (.done (f (p.run serve b).1))⟩ := by
  -- The induction is on the program: each question is a run, and its answer leaves the rest.
  induction p generalizing b with
  | done a => exact ⟨[], .start⟩
  | ask r next ih =>
    obtain ⟨t, hanswer⟩ := hp.1 b fun x => f <$> next x
    obtain ⟨t', hrest⟩ := ih _ (hp.2 _) (serve r b).2
    exact ⟨.asked r :: (t ++ t'), .cons (.asked _ r _) (hanswer.trans hrest)⟩

/-- A question is answered after some events. -/
theorem Scene.carriedBy_of_events {r : I.Request}
    (h : ∀ b, ∃ events : List ε, S.Answers ⟨r, (serve r b).1⟩
      (events.foldl (fun w e => S.happen e w) (view b)) (view (serve r b).2)) :
    S.CarriedBy view serve r := by
  intro b next
  obtain ⟨events, hanswer⟩ := h b
  exact ⟨_, (S.runs_events events _ _).step (.answered hanswer)⟩

end

namespace Bench

/-! ### The trackpad bench -/

namespace TrackpadBench

/-- What a driver on the bench shares with its triggers. -/
def shared (b : TrackpadBench) : Trackpad.Handoff :=
  { work := b.work }

theorem Noted.shared {events : List InputEvent} {b b' : TrackpadBench} (h : Noted b events b') :
    b'.shared = b.shared :=
  congrArg (Trackpad.Handoff.mk · .fresh) h.work

/-- Edges land on what is shared, one after another. -/
theorem shared_foldl_landRecorded (edges : List Edge) (b : TrackpadBench) :
    (edges.foldl landRecorded b).shared = edges.foldl (fun h e => h.land e) b.shared := by
  induction edges generalizing b with
  | nil => rfl
  | cons origin edges ih => exact ih (b.landRecorded origin)

/-- Edges land during a transfer. -/
theorem shared_answer (code : UInt8) (b : TrackpadBench) :
    ∃ edges : List Edge, (b.answer code).2.shared = edges.foldl (fun h e => h.land e) b.shared := by
  have hread : ∃ edges : List Edge,
      (b.landOnRead code).shared = edges.foldl (fun h e => h.land e) b.shared := by
    unfold landOnRead
    split
    · exact ⟨[], rfl⟩
    · split
      · exact ⟨[.thread], rfl⟩
      · exact ⟨[], rfl⟩
  obtain ⟨edges, hread⟩ := hread
  refine ⟨edges ++ (SensorResponse.next (b.landOnRead code).script).1.edges, ?_⟩
  rw [List.foldl_append, ← hread]
  exact shared_foldl_landRecorded _ _

/-- Every question but the wait for a run is answered as in the scene. -/
theorem carriedBy_serve {r : Trackpad.Request} (hr : r ≠ .awaitRun) :
    Trackpad.handoff.CarriedBy shared serve r := by
  refine Scene.carriedBy_of_events fun b => ?_
  cases r with
  | awaitRun => exact absurd rfl hr
  | claim => exact ⟨[], rfl, rfl⟩
  | command c =>
    obtain ⟨b', hnoted, htransact⟩ := snd_transact c.code b
    obtain ⟨edges, hedges⟩ := shared_answer c.code b'
    refine ⟨edges, ?_⟩
    show (b.transact c.code).2.shared = _
    rw [htransact, hedges, hnoted.shared]
    rfl
  | _ => exact ⟨[], (noted_serve (by nofun) ⟨by nofun, by nofun⟩ b).shared⟩

/-- A bring-up on a bench without edges so far. -/
theorem runs_bringUp {config : TrackpadConfig} {shutdown : ControlLine} {b : TrackpadBench}
    (hb : b.work = {}) :
    ∃ t, Trackpad.handoff.Runs (Trackpad.beginning config shutdown) t
      ⟨(b.bringUp config shutdown).2.shared,
        .ready (.done (b.bringUp config shutdown).1.toOption)⟩ := by
  have hasks : (Trackpad.bringUp config shutdown).run.Asks
      (Trackpad.handoff.CarriedBy shared serve) :=
    (Trackpad.asks_bringUp config shutdown).mono fun r hr => carriedBy_serve hr.aside.2.1
  obtain ⟨t, hrun⟩ := Scene.runs_of_run Except.toOption hasks b
  have hstart : Trackpad.beginning config shutdown =
      ⟨b.shared, .ready (Except.toOption <$> (Trackpad.bringUp config shutdown).run)⟩ := by
    rw [shared, hb]
    rfl
  exact ⟨t, hstart ▸ hrun⟩

/-- A wait that finds a run pending claims it at the first look. -/
theorem answers_awaitRun {b : TrackpadBench} (hpending : b.work.pending = true) :
    Trackpad.handoff.Answers ⟨.awaitRun, ()⟩ b.shared b.pollFresh.2.shared := by
  have hround := MotionWork.round_of_pending hpending
  have hlook : b.shared.look = (.claimed, { work := b.work.claim.2 }) := by
    simp [shared, Trackpad.Handoff.look, Waiter.look, MotionWork.claim, MotionWork.Round.waiter,
      hpending]
  have hpoll : (Waiter.fresh.poll b.work).work = b.work.claim.2 := by
    rw [Waiter.poll]
    fun_cases MotionWork.waitLoop b.work with
    | case1 w' h => exact congrArg Prod.snd (h.symm.trans hround)
    | case2 w' h => exact absurd (congrArg Prod.fst (h.symm.trans hround)) (by simp)
    | case3 w' h => exact absurd (congrArg Prod.fst (h.symm.trans hround)) (by simp)
  refine ⟨congrArg Prod.fst hlook, ?_⟩
  rw [hlook]
  exact congrArg (Trackpad.Handoff.mk · .fresh) hpoll

/-- An operation, if it does not have to wait. -/
theorem runs_perform (pad : Trackpad) {op : Trackpad.Operation} {b : TrackpadBench}
    (hwait : op = .service → b.work.pending = true) :
    ∃ t, Trackpad.handoff.Runs ⟨b.shared, .ready (.done (some pad))⟩ t
      ⟨(b.perform pad op).2.shared, .ready (.done (some (b.perform pad op).1.2))⟩ := by
  have hrun : ∃ t, Trackpad.handoff.Runs ⟨b.shared, .ready ((some ∘ Prod.snd) <$> pad.perform op)⟩ t
      ⟨(b.perform pad op).2.shared, .ready (.done (some (b.perform pad op).1.2))⟩ := by
    by_cases hop : op = .service
    · subst hop
      -- Once the wait is over, no other question waits.
      have hasks : (Trackpad.running pad.runOnce).Asks
          (Trackpad.handoff.CarriedBy shared serve) :=
        Program.asks_bind (pad.asks_runOnce.mono fun r hr => carriedBy_serve hr.2)
          fun _ => Program.asks_pure _
      obtain ⟨t, hrun⟩ := Scene.runs_of_run (some ∘ Prod.snd) hasks b.pollFresh.2
      exact ⟨_, .cons (.asked _ _ _) (.cons (.answered (answers_awaitRun (hwait rfl))) hrun)⟩
    · exact Scene.runs_of_run (some ∘ Prod.snd)
        ((pad.asks_perform hop).mono fun r hr => carriedBy_serve hr) b
  obtain ⟨t, hrun⟩ := hrun
  exact ⟨.called op :: t, .cons (.called ⟨pad, rfl, rfl, rfl⟩) hrun⟩

end TrackpadBench

/-! ### The firmware bench -/

namespace FirmwareBench

open Firmware

/-- Each edge is one interrupt. -/
theorem interrupt_landMany (n : Nat) (b : FirmwareBench) :
    (landMany n b).interrupt = (List.replicate n ()).foldl (fun m _ => m.edge.2) b.interrupt := by
  induction n generalizing b with
  | zero => rfl
  | succ n ih =>
    have hland : b.land.interrupt = b.interrupt.edge.2 := by
      unfold land
      split <;> simp_all [record]
    rw [landMany, ih, hland]
    rfl

theorem interrupt_driveShutdown (level : Bool) (b : FirmwareBench) :
    (b.driveShutdown level).2.interrupt = b.interrupt := by
  unfold driveShutdown
  split <;> rfl

theorem interrupt_report (e : InputEvent) (b : FirmwareBench) :
    (b.report e).interrupt = b.interrupt := by
  unfold report
  dsimp only
  split <;> rfl

/-- What the worker asks, laid over the pin controller or not. -/
def serveWorker : (r : Worker.Request) → FirmwareBench →
    Worker.Surroundings.Answer r × FirmwareBench
  | .driver r, b => serveTrackpad r b
  | .pins r, b => serveGpio r b

/-- On the bench a question of the driver comes to the same over the pin controller. -/
theorem run_answer (r : Trackpad.Request) :
    (Worker.answer r).run serveWorker = serveTrackpad r := by
  funext b
  cases r with
  | arm => exact Program.run_lower _ _ _ b
  | _ => rfl

/-- Laid over the pin controller, a program of the driver runs as it does on the bench. -/
theorem run_lower_answer {α : Type} (p : Program Trackpad.Peripheral α) :
    (p.lower Worker.answer).run serveWorker = p.run serveTrackpad := by
  funext b
  exact (Program.run_lower _ _ p b).trans (congrArg (p.run · b) (funext run_answer))

/-- A question that is answered on the bench as in the scene of the worker. -/
def Carried : Worker.Request → Prop :=
  worker.CarriedBy FirmwareBench.interrupt serveWorker

/-- The pin controller answers as in the scene of the worker. -/
theorem carried_pins (r : Gpio.Request) : Carried (.pins r) := by
  refine Scene.carriedBy_of_events fun b => ⟨[], ?_⟩
  cases r with
  | note notice => rfl
  | call c => cases c <;> rfl

/-- So does the sensor. -/
theorem carried_driver {r : Trackpad.Request} (harm : r ≠ .arm) (hawait : r ≠ .awaitRun) :
    Carried (.driver r) := by
  refine Scene.carriedBy_of_events fun b => ?_
  cases r with
  | arm => exact absurd rfl harm
  | awaitRun => exact absurd rfl hawait
  | claim => exact ⟨[], rfl, rfl⟩
  | command c =>
    refine ⟨List.replicate (SensorResponse.next b.script).1.edges.length (), ?_⟩
    exact interrupt_landMany _ { b with script := (SensorResponse.next b.script).2 }
  | drive level => exact ⟨[], interrupt_driveShutdown level b⟩
  | report e => exact ⟨[], interrupt_report e b⟩
  | _ => exact ⟨[], rfl⟩

/-- A program that waits for no run can be carried over to that scene. -/
theorem carried_lower {α : Type} {p : Program Trackpad.Peripheral α}
    (hp : p.Asks fun r : Trackpad.Request => r ≠ .awaitRun) :
    (p.lower Worker.answer).Asks Carried := by
  refine Program.asks_lower hp fun r hr => ?_
  cases r with
  | arm => exact Program.asks_lower (Program.asks_true _) fun r _ =>
      Program.asks_request (carried_pins r)
  | awaitRun => exact absurd rfl hr
  | _ => exact Program.asks_request (carried_driver nofun nofun)

/-- A bring-up on a bench with nothing installed. -/
theorem runs_bringUpTrackpad (config : TrackpadConfig) {b : FirmwareBench}
    (hb : b.interrupt = {}) :
    ∃ t, worker.Runs (workerStart config) t
      ⟨(b.bringUpTrackpad config).2.interrupt,
        .ready (.done (b.bringUpTrackpad config).1.toOption)⟩ := by
  have hasks : (Trackpad.bringUp config .wired).run.Asks
      fun r : Trackpad.Request => r ≠ .awaitRun :=
    (Trackpad.asks_bringUp config .wired).mono fun r hr => hr.aside.2.1
  -- The lines that are set up first leave the interrupt alone.
  let b' := ((b.record (.spiDriver Pins.sensorClock Pins.sensorDataOut Pins.sensorDataIn)).record
    (.spiDevice Pins.sensorSelect sensorHertz sensorSpiMode)).record (.output Pins.shutdown)
  obtain ⟨t, hrun⟩ := Scene.runs_of_run Except.toOption (carried_lower hasks) b'
  rw [run_lower_answer] at hrun
  have hstart : workerStart config = ⟨b'.interrupt, .ready (Worker.bringUp config)⟩ :=
    congrArg (Situation.mk · _) hb.symm
  exact ⟨t, hstart ▸ hrun⟩

/-- A turn of the worker, which ends when no notification is outstanding. -/
theorem runs_work (pad : Trackpad) (b : FirmwareBench) :
    (b.work pad).2.interrupt.notified = false ∧
      ∃ t, worker.Runs ⟨b.interrupt, .ready (.done (some pad))⟩ t
        ⟨(b.work pad).2.interrupt, .ready (.done (some (b.work pad).1))⟩ := by
  fun_induction work pad b with
  | case1 pad b h outcome ih =>
    obtain ⟨hnotified, t, hrest⟩ := ih
    refine ⟨hnotified, ?_⟩
    obtain ⟨t', hrun⟩ := Scene.runs_of_run (some ∘ Prod.snd)
      (carried_lower pad.asks_processPending) b.acknowledge
    rw [run_lower_answer] at hrun
    exact ⟨.called () :: (t' ++ t), .cons (.called ⟨h, rfl, pad, rfl, rfl⟩) (hrun.trans hrest)⟩
  | case2 pad b h => exact ⟨Bool.eq_false_iff.mpr h, [], .start⟩

/-- Following the events of the channel drains it; beyond that, whatever comes of the ticks, only
the record and the haptic chip change. -/
theorem view_consume {δ : Type} (view : FirmwareBench → δ)
    (hview : ∀ (b : FirmwareBench) (trace : List FirmwareEntry) (haptic : HapticBench),
      view { b with trace, haptic } = view b) (h : Haptic) (travel : Travel) (b : FirmwareBench) :
    view (b.consume h travel).2 = view { b with channel := b.channel.drain.2 } := by
  have hrecord : ∀ (entries : List Entry) (b : FirmwareBench),
      view (entries.foldl (fun b e => b.record (.device e)) b) = view b := by
    intro entries
    induction entries with
    | nil => exact fun _ => rfl
    | cons e entries ih => exact fun b => (ih (b.record (.device e))).trans (hview b _ b.haptic)
  refine Program.run_keeps (I := Feedback)
    (P := fun b' : FirmwareBench => view b' = view { b with channel := b.channel.drain.2 }) ?_ _ rfl
  intro r b' hb'
  cases r with
  | note notice => exact (hview b' _ b'.haptic).trans hb'
  | tick => exact (hrecord _ _).trans ((hview b' b'.trace _).trans hb')

theorem interrupt_consume (h : Haptic) (travel : Travel) (b : FirmwareBench) :
    (b.consume h travel).2.interrupt = b.interrupt :=
  view_consume FirmwareBench.interrupt (fun _ _ _ => rfl) h travel b

end FirmwareBench

/-! ### Sessions -/

namespace Session

open Firmware

variable {config : TrackpadConfig} {s : Session} {step : SessionStep} {steps : List SessionStep}

/-- What has happened in the session is a run of the worker, who waits. -/
def Follows (config : TrackpadConfig) (s : Session) : Prop :=
  ∃ t, worker.Runs (workerStart config) t ⟨s.bench.interrupt, .ready (.done (some s.pad))⟩

/-- Nothing is left for the worker to do: no notification is outstanding, and no run is pending. -/
structure Idle (s : Session) : Prop where
  notified : s.bench.interrupt.notified = false
  pending : s.bench.interrupt.work.pending = false

/-- The session begins when the trackpad is up. -/
theorem follows_bringUpTrackpad {b b' : FirmwareBench} {pad : Trackpad} (haptic : Haptic)
    (hb : b.interrupt = {}) (hup : b.bringUpTrackpad config = (.ok pad, b')) :
    Follows config { bench := b', haptic, pad } := by
  obtain ⟨t, hrun⟩ := FirmwareBench.runs_bringUpTrackpad config hb
  rw [hup] at hrun
  exact ⟨t, hrun⟩

/-- After their turns the threads have nothing left to do. -/
theorem Follows.settle (h : s.Follows config) : s.settle.Follows config ∧ s.settle.Idle := by
  obtain ⟨t, hrun⟩ := h
  obtain ⟨hnotified, t', hwork⟩ := FirmwareBench.runs_work s.pad s.bench
  have hinterrupt : s.settle.bench.interrupt = (s.bench.work s.pad).2.interrupt :=
    FirmwareBench.interrupt_consume _ _ _
  have hrun' := hrun.trans hwork
  rw [← hinterrupt] at hnotified hrun'
  exact ⟨⟨_, hrun'⟩, hnotified, ((Worker.alert_of_runs hrun').inStep rfl).symm.trans hnotified⟩

/-- Edges arrive while the worker waits. -/
theorem Follows.happen (h : s.Follows config) (hwake : step.wake = false) (number : Nat) :
    (s.happen number step).Follows config := by
  obtain ⟨t, hrun⟩ := h
  have hinterrupt : (s.happen number step).bench.interrupt =
      (List.replicate step.edges ()).foldl (fun m _ => m.edge.2) s.bench.interrupt := by
    refine (FirmwareBench.interrupt_landMany _ _).trans ?_
    show List.foldl _ { s.bench.interrupt with
      notified := s.bench.interrupt.notified || step.wake } _ = _
    rw [hwake, Bool.or_false]
  refine ⟨t ++ (List.replicate step.edges ()).map .event, hrun.trans ?_⟩
  rw [hinterrupt]
  exact worker.runs_events _ _ _

/-- A session in which only edges wake the worker follows the scene step by step. -/
theorem Follows.play (h : s.Follows config) (hidle : s.Idle)
    (hwake : ∀ step ∈ steps, step.wake = false) (number : Nat) :
    (s.play number steps).Follows config ∧ (s.play number steps).Idle := by
  induction steps generalizing s number with
  | nil => exact ⟨h, hidle⟩
  | cons step steps ih =>
    obtain ⟨hstep, hsteps⟩ := List.forall_mem_cons.mp hwake
    obtain ⟨hsettled, hidle'⟩ := (h.happen hstep number).settle
    exact ih hsettled hidle' hsteps (number + 1)

end Session

end Bench

end TactilePad
