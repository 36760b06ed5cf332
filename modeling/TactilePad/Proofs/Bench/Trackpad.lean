import TactilePad.Bench.Trackpad
import TactilePad.Proofs.Motion.Conservation
import TactilePad.Proofs.Trackpad.Reports

/-!
# Histories on the trackpad bench

* `TrackpadBench.noted_serve`: what a bench does to answer anything but a command or a claim;
* `TrackpadBench.reported_run`: the events that the bench has recorded are those that the history of
  the driver reports, whatever the transport and the sink;
* `TrackpadBench.Calm.run`: where no edge lands by itself, the driver leaves the motion work
  `MotionWork.Covered`: no more runs were claimed or are pending than edges were counted, as long as
  the counters do not wrap.
-/

namespace TactilePad

open Trackpad (events eventOf?)

namespace Bench.TrackpadBench

/-! ### What a bench does to answer -/

/-- The events that were reported, oldest first. -/
def reported (b : TrackpadBench) : List InputEvent :=
  b.trace.reverse.filterMap Entry.event?

/-- The second bench has recorded more, and of events those given; what decides about commands and
runs is as before. -/
structure Noted (b : TrackpadBench) (events : List InputEvent) (b' : TrackpadBench) : Prop where
  script : b'.script = b.script
  edgesOnRead : b'.edgesOnRead = b.edgesOnRead
  work : b'.work = b.work
  reported : b'.reported = b.reported ++ events

theorem Noted.refl (b : TrackpadBench) : Noted b [] b :=
  ⟨rfl, rfl, rfl, (List.append_nil _).symm⟩

theorem reported_record (b : TrackpadBench) (e : Entry) :
    (b.record e).reported = b.reported ++ e.event?.toList := by
  cases h : e.event? <;> simp [reported, record, h]

theorem noted_record {e : Entry} {events : List InputEvent} (b : TrackpadBench)
    (he : e.event?.toList = events) : Noted b events (b.record e) :=
  ⟨rfl, rfl, rfl, he ▸ reported_record b e⟩

theorem noted_driveLine (level : Bool) (b : TrackpadBench) : Noted b [] (b.driveLine level).2 := by
  unfold driveLine
  split
  · exact noted_record b rfl
  · exact ⟨rfl, rfl, rfl, reported_record b (.drive .shutdown level true)⟩

/-- A report notes its event, wherever the sink takes it. -/
theorem noted_report (e : InputEvent) (b : TrackpadBench) : Noted b [e] (b.report e) := by
  have hrecord : Noted b [e] (b.record (.event e)) := noted_record b rfl
  unfold report
  dsimp only
  split
  · exact hrecord
  · split
    · refine ⟨rfl, rfl, rfl, (reported_record _ _).trans ?_⟩
      exact (List.append_nil _).trans hrecord.reported
    · exact ⟨rfl, rfl, rfl, hrecord.reported⟩

/-- Only commands and claims touch script and motion work, and an event is recorded exactly when
the driver reports one. -/
theorem noted_serve {r : Trackpad.Request} (hcommand : ∀ c, r ≠ .command c) (hclaim : r.Claimless)
    (b : TrackpadBench) : Noted b (eventOf? ⟨r, (serve r b).1⟩).toList (serve r b).2 := by
  cases r with
  | command c => exact absurd rfl (hcommand c)
  | claim => exact absurd rfl hclaim.1
  | awaitRun => exact absurd rfl hclaim.2
  | busReady =>
    -- What is ready is recorded where it is asked.
    show Noted b [] b.busReady.2
    unfold busReady
    split
    · exact noted_record b rfl
    · exact .refl b
  | irqReady =>
    show Noted b [] b.irqReady.2
    unfold irqReady
    split
    · exact noted_record b rfl
    · exact .refl b
  | drive level => exact noted_driveLine level b
  | arm => exact noted_record b rfl
  | delay ms => exact noted_record b rfl
  | report e => exact noted_report e b
  | note notice => exact noted_record b rfl

/-- A command is answered by the sensor, whatever the transport. -/
theorem snd_transact (code : UInt8) (b : TrackpadBench) :
    ∃ b', Noted b [] b' ∧ (b.transact code).2 = (b'.answer code).2 := by
  unfold transact
  split
  · exact ⟨b, .refl b, rfl⟩
  · refine ⟨if b.recordsRaw then b.record (.spi [.write [code], .read 1]) else b, ?_, rfl⟩
    split
    · exact noted_record b rfl
    · exact .refl b

/-! ### What a bench records of the reported events -/

theorem reported_landRecorded (b : TrackpadBench) (origin : Edge) :
    (b.landRecorded origin).reported = b.reported := by
  rw [landRecorded, reported_record]
  exact List.append_nil _

theorem reported_foldl_landRecorded (edges : List Edge) (b : TrackpadBench) :
    (edges.foldl landRecorded b).reported = b.reported := by
  induction edges generalizing b with
  | nil => rfl
  | cons origin edges ih => exact (ih _).trans (reported_landRecorded b origin)

theorem reported_answer (code : UInt8) (b : TrackpadBench) :
    (b.answer code).2.reported = b.reported := by
  have hread : (b.landOnRead code).reported = b.reported := by
    unfold landOnRead
    split
    · rfl
    · split
      · exact reported_landRecorded _ _
      · rfl
  rw [answer, reported_record, reported_foldl_landRecorded, ← hread]
  exact List.append_nil _

theorem reported_transact (code : UInt8) (b : TrackpadBench) :
    (b.transact code).2.reported = b.reported := by
  obtain ⟨b', hnoted, htransact⟩ := snd_transact code b
  rw [htransact, reported_answer, hnoted.reported, List.append_nil]

/-- The bench records an event exactly when the driver reports one. -/
theorem reported_serve (r : Trackpad.Request) (b : TrackpadBench) :
    (serve r b).2.reported = b.reported ++ (eventOf? ⟨r, (serve r b).1⟩).toList := by
  have hsame : b.reported = b.reported ++ [] := (List.append_nil _).symm
  cases r with
  | command c => exact (reported_transact c.code b).trans hsame
  | claim => exact hsame
  | awaitRun => exact hsame
  | _ => exact (noted_serve (by nofun) ⟨by nofun, by nofun⟩ b).reported

/-- What a bench has recorded after a program is what the history of the program reports. -/
theorem reported_run {α : Type} (p : Program Trackpad.Peripheral α) (b : TrackpadBench) :
    (p.run serve b).2.reported = b.reported ++ events (p.history serve b) :=
  Program.noted_run reported_serve p b

end Bench.TrackpadBench

/-! ### Runs and edges -/

/-- Motion work on which no more runs were claimed or are pending than edges were counted, and of
these at most `n`. -/
structure MotionWork.Covered (n : Nat) (w : MotionWork) : Prop where
  runs : w.runs.toNat + w.pending.toNat ≤ w.interrupts.toNat
  interrupts : w.interrupts.toNat ≤ n

namespace MotionWork.Covered

variable {n : Nat} {w w' : MotionWork}

theorem mono {n' : Nat} (h : Covered n w) (hn : n ≤ n') : Covered n' w :=
  ⟨h.runs, Nat.le_trans h.interrupts hn⟩

/-- The number of runs and edges is all that counts. -/
theorem sameRuns (h : Covered n w) (hsame : SameRuns w w') : Covered n w' := by
  obtain ⟨hruns, hinterrupts⟩ := h
  constructor
  · rwa [hsame.runs, hsame.pending, hsame.interrupts]
  · rwa [hsame.interrupts]

/-- A claim turns the pending run into a claimed one. -/
theorem claim (h : Covered n w) : Covered n w.claim.2 := by
  obtain ⟨hruns, hinterrupts⟩ := h
  constructor
  · rw [runs_claim, pending_claim, interrupts_claim]
    cases hp : w.pending with
    | false => simpa [hp] using hruns
    | true =>
      have hbound := w.interrupts.toNat_lt
      have hnext : (w.runs + 1).toNat = w.runs.toNat + 1 := by
        rw [UInt32.toNat_add, UInt32.toNat_one, Nat.mod_eq_of_lt]
        simp only [hp, Bool.toNat_true] at hruns
        omega
      simpa [hp, hnext] using hruns
  · rwa [interrupts_claim]

/-- A waiter that claims a run takes it off those that are pending. -/
theorem poll (h : Covered n w) (a : Waiter) : Covered n (a.poll w).work := by
  rcases a.poll_cases w with ⟨-, -, hsame⟩ | ⟨-, -, -, hsame⟩
  · exact h.claim.sameRuns hsame
  · exact h.sameRuns hsame

/-- An edge counts for the run that it may make pending. -/
theorem land (h : Covered n w) (hn : n + 1 < 2 ^ 32) (origin : Edge) :
    Covered (n + 1) (w.land origin).2 := by
  obtain ⟨hruns, hinterrupts⟩ := h
  have hnext : (w.interrupts + 1).toNat = w.interrupts.toNat + 1 := by
    rw [UInt32.toNat_add, UInt32.toNat_one, Nat.mod_eq_of_lt]
    omega
  constructor
  · rw [runs_land, pending_land, interrupts_land, hnext, Bool.toNat_true]
    omega
  · rw [interrupts_land, hnext]
    omega

end MotionWork.Covered

namespace Bench.TrackpadBench

variable {n : Nat} {b b' : TrackpadBench}

/-- A bench on which no edge is due to land by itself and the motion work is covered. -/
structure Calm (n : Nat) (b : TrackpadBench) : Prop where
  edgesOnRead : b.edgesOnRead = 0
  script : ∀ response ∈ b.script, response.edges = []
  covered : b.work.Covered n

/-- A calm bench stays calm where events are noted only. -/
theorem Calm.noted {events : List InputEvent} (h : Calm n b) (hnoted : Noted b events b') :
    Calm n b' where
  edgesOnRead := hnoted.edgesOnRead.trans h.edgesOnRead
  script := hnoted.script ▸ h.script
  covered := hnoted.work ▸ h.covered

/-- A command takes a response from the script, and no edge lands. -/
theorem Calm.answer (h : Calm n b) (code : UInt8) : Calm n (b.answer code).2 := by
  have hread : b.landOnRead code = b := by
    unfold landOnRead
    rw [h.edgesOnRead]
  have hnext : (SensorResponse.next b.script).1.edges = [] ∧
      ∀ response ∈ (SensorResponse.next b.script).2, response ∈ b.script := by
    cases hs : b.script with
    | nil => exact ⟨rfl, fun _ => id⟩
    | cons response script =>
      exact ⟨h.script response (hs ▸ List.mem_cons_self), fun _ => List.mem_cons_of_mem _⟩
  unfold TrackpadBench.answer
  rw [hread]
  dsimp only
  rw [hnext.1]
  exact ⟨h.edgesOnRead, fun response hr => h.script response (hnext.2 response hr), h.covered⟩

/-- The driver leaves a calm bench calm. -/
theorem Calm.serve (r : Trackpad.Request) (b : TrackpadBench) (h : Calm n b) :
    Calm n (serve r b).2 := by
  cases r with
  | command c =>
    obtain ⟨b', hnoted, htransact⟩ := snd_transact c.code b
    show Calm n (b.transact c.code).2
    rw [htransact]
    exact (h.noted hnoted).answer c.code
  | claim => exact ⟨h.edgesOnRead, h.script, h.covered.claim⟩
  | awaitRun => exact ⟨h.edgesOnRead, h.script, h.covered.poll .fresh⟩
  | _ => exact h.noted (noted_serve (by nofun) ⟨by nofun, by nofun⟩ b)

/-- A calm bench stays calm while a driver runs on it. -/
theorem Calm.run {α : Type} (h : Calm n b) (p : Program Trackpad.Peripheral α) :
    Calm n (p.run TrackpadBench.serve b).2 :=
  Program.run_keeps (I := Trackpad.Peripheral) Calm.serve p h

/-- Edges that arrive between two runs. -/
theorem Calm.landMany (h : Calm n b) (origin : Edge) {k : Nat} (hk : n + k < 2 ^ 32) :
    Calm (n + k) (b.landMany origin k).2 := by
  induction k generalizing n b with
  | zero => exact h
  | succ k ih =>
    have hland : Calm (n + 1) (b.land origin).2 :=
      ⟨h.edgesOnRead, h.script, h.covered.land (by omega) origin⟩
    have hrest := ih hland (by omega)
    rwa [Nat.add_right_comm] at hrest

theorem reported_landMany (origin : Edge) (k : Nat) (b : TrackpadBench) :
    (b.landMany origin k).2.reported = b.reported := by
  induction k generalizing b with
  | zero => rfl
  | succ k ih => exact ih (b.land origin).2

end Bench.TrackpadBench

end TactilePad
