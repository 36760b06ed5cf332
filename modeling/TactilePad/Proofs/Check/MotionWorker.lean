import TactilePad.Check.MotionWorker
import TactilePad.Proofs.Bench.Trackpad
import TactilePad.Proofs.Trackpad.Calls
import TactilePad.Proofs.Trackpad.Edges

/-!
# Motion is accounted for

* `motion_is_accounted`: wherever motion edges land and whatever the sensor answers, events,
  position and log of the driver's thread are accounted for; in particular the check of the worker
  passes for every input for which the counters cannot wrap.

The check goes through rounds of edges and a worker run (`Underway.round`), from which the bench
keeps the events of a run of the driver and as many edges as the rounds have had.
-/

namespace TactilePad.Check

open Bench (TrackpadBench)
open Bench.TrackpadBench (Calm)
open Trackpad (events Reached)

/-- Where the check stands between two rounds: the bench has recorded the events of a run of the
driver, and counts at most `n` edges. -/
structure Underway (config : TrackpadConfig) (n : Nat) (s : Trackpad × TrackpadBench) : Prop where
  calm : Calm n s.2
  reached : ∃ calls, Reached config .absent calls s.1 ∧ s.2.reported = events calls.flatten

/-- A bring-up on a calm bench gets the check under way. -/
theorem underway_bringUp {config : TrackpadConfig} {pad : Trackpad} {b b' : TrackpadBench}
    (hcalm : Calm 0 b) (hempty : b.reported = [])
    (hup : b.bringUp config .absent = (.ok pad, b')) : Underway config 0 (pad, b') := by
  let u := (Trackpad.bringUp config .absent).run.history TrackpadBench.serve b
  have hb' : (b.bringUp config .absent).2 = b' := congrArg Prod.snd hup
  have hpad : (b.bringUp config .absent).1 = .ok pad := congrArg Prod.fst hup
  have hyields : (Trackpad.bringUp config .absent).run.Yields u (.ok pad) := by
    rw [← hpad]
    exact Program.yields_history _ _ _
  -- The bring-up is the first call, and all that the bench has recorded is its own.
  refine ⟨?_, [u], .bringUp hyields, ?_⟩
  · show Calm 0 b'
    rw [← hb']
    exact hcalm.run (Trackpad.bringUp config .absent).run
  · show b'.reported = events [u].flatten
    rw [← hb', List.flatten_singleton]
    calc (b.bringUp config .absent).2.reported
        = b.reported ++ events u :=
          TrackpadBench.reported_run (Trackpad.bringUp config .absent).run b
      _ = events u := by rw [hempty, List.nil_append]

/-- A burst has at most four edges. -/
theorem burst_le (bursts : UInt8) (i : Nat) : burst bursts i ≤ 4 := by
  have hmask : (bursts >>> UInt8.ofNat (i % 8) &&& 3).toNat ≤ 3 := by
    rw [UInt8.toNat_and]
    exact Nat.and_le_right
  unfold burst
  omega

/-- A round lands a burst of edges and runs the worker once, which is one more call. -/
theorem Underway.round {config : TrackpadConfig} {n : Nat} {s : Trackpad × TrackpadBench}
    (h : Underway config n s) (bursts : UInt8) (i : Nat) (hn : n + 4 < 2 ^ 32) :
    Underway config (n + 4) (motionRound bursts s i) := by
  obtain ⟨hcalm, calls, hreached, hreported⟩ := h
  have hburst := burst_le bursts i
  have hlanded : Calm (n + burst bursts i) (s.2.landMany .thread (burst bursts i)).2 :=
    hcalm.landMany .thread (by omega)
  -- Fewer edges than the four that are allowed for can have landed.
  have hlanded' : Calm (n + 4) (s.2.landMany .thread (burst bursts i)).2 :=
    ⟨hlanded.edgesOnRead, hlanded.script, hlanded.covered.mono (by omega)⟩
  refine ⟨hlanded'.run s.1.processPending, ?_⟩
  let bench := (s.2.landMany .thread (burst bursts i)).2
  let u := s.1.processPending.history TrackpadBench.serve bench
  have hstep : (s.1.perform .processPending).Yields u
      (.ok (.motion (s.1.processPending.run TrackpadBench.serve bench).1.1),
        (s.1.processPending.run TrackpadBench.serve bench).1.2) :=
    Trackpad.yields_running.mpr ⟨_, Program.yields_history _ _ _, rfl⟩
  refine ⟨calls ++ [u], hreached.perform hstep, ?_⟩
  calc (motionRound bursts s i).2.reported
      = bench.reported ++ events u := TrackpadBench.reported_run s.1.processPending bench
    _ = events calls.flatten ++ events u := by
        rw [TrackpadBench.reported_landMany, hreported]
    _ = events (calls ++ [u]).flatten := by
        rw [List.flatten_append, Trackpad.events_append, List.flatten_singleton]

/-- Any number of rounds, while there are fewer than 2^32 edges. -/
theorem Underway.rounds {config : TrackpadConfig} {n : Nat} {s : Trackpad × TrackpadBench}
    (h : Underway config n s) (bursts : UInt8) (is : List Nat) (hn : n + 4 * is.length < 2 ^ 32) :
    Underway config (n + 4 * is.length) (is.foldl (motionRound bursts) s) := by
  induction is generalizing n s with
  | nil => exact h
  | cons i is ih =>
    rw [List.length_cons, Nat.mul_succ] at hn ⊢
    have hround := ih (h.round bursts i (by omega)) (by omega)
    rwa [Nat.add_right_comm, Nat.add_assoc] at hround

/-- Whole reports, one after another. -/
theorem areReports_append (device : UInt8) (motion : Trackpad.MotionReport)
    (kinds : List InputKind) :
    InputKind.areReports ((motion.events device).map InputEvent.kind ++ kinds) =
      InputKind.areReports kinds := rfl

theorem areReports_flatMap (device : UInt8) (motions : List Trackpad.MotionReport) :
    InputKind.areReports
      ((motions.flatMap (Trackpad.MotionReport.events device)).map InputEvent.kind) = true := by
  induction motions with
  | nil => rfl
  | cons motion motions ih =>
    rw [List.flatMap_cons, List.map_append, areReports_append]
    exact ih

/-- Wherever the check stands, what it has recorded is in order. -/
theorem Underway.holds {config : TrackpadConfig} {n : Nat} {s : Trackpad × TrackpadBench}
    (h : Underway config n s) : motionHolds s.2 s.2.trace.reverse = true := by
  obtain ⟨hcalm, calls, hreached, hreported⟩ := h
  have hruns : s.2.work.runs ≤ s.2.work.interrupts := by
    have hcovered := hcalm.covered.runs
    rw [UInt32.le_iff_toNat_le]
    omega
  have hevents : s.2.trace.reverse.filterMap Bench.Entry.event? = events calls.flatten := hreported
  rw [motionHolds, hevents, hreached.accounted.2.reports, areReports_flatMap, Bool.and_true]
  exact decide_eq_true hruns

theorem edges_of_mem_responses {bytes : List UInt8} {response : Bench.SensorResponse}
    (h : response ∈ bytes.map responseOf) : response.edges = [] := by
  obtain ⟨b, -, rfl⟩ := List.mem_map.mp h
  rfl

/-- The check passes for every input for which the counters cannot wrap. -/
theorem passed_motionWorker (data : List UInt8) (hdata : data.length < 2 ^ 30) :
    (motionWorker data).passed = true := by
  unfold motionWorker
  split
  · next flags scaleX scaleY bursts answers =>
    dsimp only
    split
    · rfl
    · next pad b hup =>
      have hcalm :
          Calm 0 { script := ([0, 0, 0] ++ answers).map responseOf, motionLine := .plain } :=
        ⟨rfl, fun response hr => edges_of_mem_responses hr, Nat.le_refl 0, Nat.le_refl 0⟩
      have hrounds := (underway_bringUp hcalm rfl hup).rounds bursts
        (List.range (answers.length + 4)) ?_
      · exact hrounds.holds
      · -- At most four edges for each byte of the input, which the bound allows for.
        simp only [List.length_cons] at hdata
        rw [List.length_range]
        omega
  · rfl

/-- Motion is accounted for, wherever edges land and whatever the sensor answers; in particular the
check of the worker passes. -/
theorem motion_is_accounted :
    (∀ {config : TrackpadConfig} {shutdown : ControlLine}
      {t : List (Moment Trackpad.Peripheral Edge Trackpad.Operation)}
      {s : Situation Trackpad.Peripheral Trackpad.Handoff (Option Trackpad)} {pad : Trackpad},
      Trackpad.handoff.Runs (Trackpad.beginning config shutdown) t s →
        s.stage = .ready (.done (some pad)) →
          Trackpad.Accounted config (Trackpad.callsOf t) pad) ∧
    ∀ data : List UInt8, data.length < 2 ^ 30 → (motionWorker data).passed = true :=
  ⟨fun hrun hstage => (Trackpad.reached_of_runs hrun hstage).accounted.2, passed_motionWorker⟩

/-- After the run that failed (`edgeDuringFault`), the run that is left pending reports a motion. -/
def retriedRun : List (Moment Trackpad.Peripheral Edge Trackpad.Operation) :=
  Trackpad.edgeDuringFault ++
  [.called .processPending, .asked .claim, .answered ⟨.claim, true⟩,
    .asked (.command .readMotion), .answered ⟨.command .readMotion, .ok 0x80⟩,
    .asked (.command .readDeltaX), .event .interrupt,
    .answered ⟨.command .readDeltaX, .ok 0x03⟩,
    .asked (.command .readDeltaY), .answered ⟨.command .readDeltaY, .ok 0xFE⟩,
    .asked (.note (.moved 3 (-2))), .answered ⟨.note (.moved 3 (-2)), ()⟩,
    .asked (.report ⟨0, .relX 3⟩), .answered ⟨.report ⟨0, .relX 3⟩, ()⟩,
    .asked (.report ⟨0, .relY (-2)⟩), .answered ⟨.report ⟨0, .relY (-2)⟩, ()⟩,
    .asked (.report ⟨0, .sync⟩), .answered ⟨.report ⟨0, .sync⟩, ()⟩]

theorem runs_retriedRun :
    Trackpad.handoff.Runs (Trackpad.beginning {} .absent) retriedRun
      ⟨⟨⟨true, .signaled, 3, 2⟩, .fresh⟩, .ready (.done (some ⟨{}, .absent, 3, -2⟩))⟩ := by
  refine Trackpad.runs_edgeDuringFault.trans ?_
  refine .cons (.called ⟨_, rfl, rfl, rfl⟩) ?_
  refine .cons (.asked _ _ _) (.cons (.answered ⟨rfl, rfl⟩) ?_)
  refine .cons (.asked _ _ _) (.cons (.answered rfl) ?_)
  refine .cons (.asked _ _ _) (.cons (.event _ _ _) (.cons (.answered rfl) ?_))
  refine .cons (.asked _ _ _) (.cons (.answered rfl) ?_)
  refine .cons (.asked _ _ _) (.cons (.answered rfl) ?_)
  refine .cons (.asked _ _ _) (.cons (.answered rfl) ?_)
  refine .cons (.asked _ _ _) (.cons (.answered rfl) ?_)
  exact .cons (.asked _ _ _) (.cons (.answered rfl) .start)

theorem motion_is_accounted_retriedRun :
    Trackpad.Accounted {} (Trackpad.callsOf retriedRun) ⟨{}, .absent, 3, -2⟩ ∧
      (motionWorker [0, 1, 1, 3, 0x80, 0x03, 0xFE]).passed = true :=
  ⟨motion_is_accounted.1 runs_retriedRun rfl, motion_is_accounted.2 _ (by decide)⟩

end TactilePad.Check
