import TactilePad.Proofs.Histories
import TactilePad.Trackpad.Driver

/-!
# What the trackpad driver may ask

Bring-up and the power operations are chores (`Request.Chore`): they claim no run, read nothing from
the sensor and report nothing.  A worker run reads the motion status first, and everything that it
asks after that is aside (`Request.Aside`): it neither claims a run nor begins one.

* `asks_bringUp`, `asks_powerDown`, `asks_powerUp`: these do chores only;
* `pollMotion_eq_bind`: a run reads the motion status and then asks aside, so that it claims no
  other run (`asks_pollMotion`, `asks_runOnce`);
* `asks_perform`: no operation but one waits for a run.
-/

namespace TactilePad.Trackpad

/-- Whether the command reads one of the motion registers. -/
def Command.reads : Command → Bool
  | .readMotion | .readDeltaX | .readDeltaY => true
  | .config1 | .config2 | .powerDown | .powerUp => false

/-- A question that has nothing to do with worker runs. -/
def Request.Chore : Request → Prop
  | .command c => c.reads = false
  | .claim | .awaitRun | .report _ => False
  | .busReady | .irqReady | .drive _ | .arm | .delay _ | .note _ => True

/-- A question that a bring-up can ask before the interrupt is armed. -/
def Request.Preliminary : Request → Prop
  | .arm | .command _ => False
  | .busReady | .irqReady | .drive _ | .delay _ | .claim | .awaitRun | .report _ | .note _ => True

/-- A question that neither claims a run nor begins one. -/
def Request.Aside (r : Request) : Prop :=
  r ≠ .claim ∧ r ≠ .awaitRun ∧ r ≠ .command .readMotion

/-- A question that claims no run. -/
def Request.Claimless (r : Request) : Prop :=
  r ≠ .claim ∧ r ≠ .awaitRun

theorem Request.Chore.aside {r : Request} (h : r.Chore) : r.Aside := by
  refine ⟨?_, ?_, ?_⟩ <;>
  · rintro rfl
    exact nomatch h

theorem Request.Aside.claimless {r : Request} (h : r.Aside) : r.Claimless :=
  ⟨h.1, h.2.1⟩

theorem Request.aside_note (notice : Notice) : (Request.note notice).Aside :=
  ⟨nofun, nofun, nofun⟩

/-- Every question can be answered. -/
theorem answerable (r : Peripheral.Request) : Nonempty (Peripheral.Answer r) := by
  cases r with
  | busReady | irqReady | claim => exact ⟨true⟩
  | drive | arm => exact ⟨.ok ()⟩
  | command => exact ⟨.ok 0⟩
  | delay | awaitRun | report | note => exact ⟨()⟩

/-! ### Single questions -/

section Asks

variable {α : Type} {allowed : Request → Prop}

theorem asks_note {notice : Notice} (h : allowed (.note notice)) :
    (note notice).run.Asks allowed :=
  Attempt.asks_ask h

/-- An access whose fault is logged asks what the access asks, and logs. -/
theorem asks_orNote {notice : BusFault → Notice} {p : Program Peripheral (Except BusFault α)}
    (hp : p.Asks allowed) (h : ∀ fault, allowed (.note (notice fault))) :
    (orNote notice p).run.Asks allowed := by
  refine Program.asks_bind (Program.asks_map hp) fun x => ?_
  rcases x with error | fault | a
  · exact Program.asks_pure _
  · exact Attempt.asks_bind (asks_note (h fault)) fun _ => Attempt.asks_throw _
  · exact Attempt.asks_pure a

theorem asks_command {c : Command} (h : allowed (.command c))
    (hnote : ∀ fault, allowed (.note (.commandFailed c fault))) :
    (command c).run.Asks allowed :=
  asks_orNote (Program.asks_request h) hnote

theorem asks_driveLine {line : ControlLine} {level : Bool} (h : allowed (.drive level)) :
    (driveLine line level).Asks allowed := by
  cases line with
  | absent => exact Program.asks_pure _
  | unconnected => exact Program.asks_pure _
  | wired => exact Program.asks_bind (Program.asks_request h) fun _ => Program.asks_pure _

end Asks

/-! ### Bring-up and power -/

/-- A bring-up does chores only. -/
theorem asks_bringUp (config : TrackpadConfig) (shutdown : ControlLine) :
    (bringUp config shutdown).run.Asks Request.Chore := by
  have hnote : ∀ notice, (note notice).run.Asks Request.Chore := fun notice => asks_note trivial
  have hcommand : ∀ c : Command, c.reads = false → (command c).run.Asks Request.Chore :=
    fun c hc => asks_command hc fun _ => trivial
  -- One step after another in the order of the program, an unready bus or line ending it.
  refine Attempt.asks_bind (Attempt.asks_ofExcept _) fun _ => ?_
  refine Attempt.asks_bind (Attempt.asks_ask trivial) fun ready => ?_
  cases ready with
  | false => exact Attempt.asks_bind (hnote _) fun _ => trivial
  | true =>
    refine Attempt.asks_bind (Attempt.asks_ask trivial) fun ready => ?_
    cases ready with
    | false => exact Attempt.asks_bind (hnote _) fun _ => trivial
    | true =>
      refine Attempt.asks_bind (asks_orNote (asks_driveLine trivial) fun _ => trivial) fun _ => ?_
      refine Attempt.asks_bind (asks_orNote (Program.asks_request trivial) fun _ => trivial)
        fun _ => ?_
      refine Attempt.asks_bind (Attempt.asks_ask trivial) fun _ => ?_
      refine Attempt.asks_bind (hcommand .config1 rfl) fun _ => ?_
      refine Attempt.asks_bind (hcommand .config2 rfl) fun _ => ?_
      refine Attempt.asks_bind (hcommand .powerUp rfl) fun _ => ?_
      exact Attempt.asks_bind (hnote _) fun _ => Attempt.asks_pure _

theorem asks_setPower (pad : Trackpad) (on : Bool) : (pad.setPower on).run.Asks Request.Chore :=
  Program.asks_bind (asks_driveLine trivial) fun _ => Program.asks_pure _

theorem asks_powerDown (pad : Trackpad) : pad.powerDown.run.Asks Request.Chore := by
  refine Attempt.asks_bind (asks_command rfl fun _ => trivial) fun _ => ?_
  exact Attempt.asks_bind (pad.asks_setPower false) fun _ => asks_note trivial

theorem asks_powerUp (pad : Trackpad) : pad.powerUp.run.Asks Request.Chore := by
  have hwake : (command .powerUp >>= fun _ => note (.poweredUp pad.config.id)).run.Asks
      Request.Chore :=
    Attempt.asks_bind (asks_command rfl fun _ => trivial) fun _ => asks_note trivial
  refine Attempt.asks_bind (pad.asks_setPower true) fun present => ?_
  cases present with
  | false => exact hwake
  | true => exact Attempt.asks_bind (Attempt.asks_ask trivial) fun _ => hwake

/-! ### Worker runs -/

/-- A run reads the motion status first; what it asks after that depends on the status. -/
theorem pollMotion_eq_bind (pad : Trackpad) :
    ∃ rest : UInt8 → Attempt Peripheral (Option MotionReport × Trackpad),
      pad.pollMotion = command .readMotion >>= rest ∧
        ∀ status, (rest status).run.Asks Request.Aside := by
  refine ⟨_, rfl, fun status => ?_⟩
  have hnote : ∀ notice, (note notice).run.Asks Request.Aside :=
    fun notice => asks_note (Request.aside_note notice)
  have hreport : ∀ event, (report event).run.Asks Request.Aside :=
    fun event => Attempt.asks_ask ⟨nofun, nofun, nofun⟩
  -- Without motion the status is logged; otherwise the deltas are read and reported.
  dsimp only
  split
  · exact Attempt.asks_bind (hnote _) fun _ => Attempt.asks_pure _
  · refine Attempt.asks_bind (asks_command ⟨nofun, nofun, nofun⟩ fun _ => Request.aside_note _)
      fun rawX => ?_
    refine Attempt.asks_bind (asks_command ⟨nofun, nofun, nofun⟩ fun _ => Request.aside_note _)
      fun rawY => ?_
    refine Attempt.asks_bind (hnote _) fun _ => ?_
    refine Attempt.asks_bind (hreport _) fun _ => ?_
    refine Attempt.asks_bind (hreport _) fun _ => ?_
    exact Attempt.asks_bind (hreport _) fun _ => Attempt.asks_pure _

/-- A run never claims another one. -/
theorem asks_pollMotion (pad : Trackpad) : pad.pollMotion.run.Asks Request.Claimless := by
  obtain ⟨rest, hpoll, hrest⟩ := pad.pollMotion_eq_bind
  have hread : (command .readMotion).run.Asks Request.Claimless :=
    asks_command ⟨nofun, nofun⟩ fun _ => ⟨nofun, nofun⟩
  rw [hpoll]
  exact Attempt.asks_bind hread fun status => (hrest status).mono fun r hr => hr.claimless

/-- A single run of the worker claims no other run either. -/
theorem asks_runOnce (pad : Trackpad) : pad.runOnce.Asks Request.Claimless := by
  refine Program.asks_bind pad.asks_pollMotion fun x => ?_
  cases x <;> exact Program.asks_pure _

/-- A run that is made only if one is pending does not wait for one. -/
theorem asks_processPending (pad : Trackpad) :
    pad.processPending.Asks fun r : Request => r ≠ .awaitRun := by
  refine ⟨nofun, fun found => ?_⟩
  cases found with
  | false => exact Program.asks_pure _
  | true => exact pad.asks_runOnce.mono fun r hr => hr.2

/-- Only one operation waits for a run. -/
theorem asks_perform (pad : Trackpad) {op : Operation} (hop : op ≠ .service) :
    (pad.perform op).Asks fun r : Request => r ≠ .awaitRun := by
  have hchores : ∀ {p : Attempt Peripheral Unit}, p.run.Asks Request.Chore →
      (pad.keeping p).Asks fun r : Request => r ≠ .awaitRun := by
    intro p hp
    exact Program.asks_bind (hp.mono fun r hr => hr.aside.2.1) fun _ => Program.asks_pure _
  cases op with
  | poll =>
    refine Program.asks_bind (pad.asks_pollMotion.mono fun r hr => hr.2) fun x => ?_
    cases x <;> exact Program.asks_pure _
  | processPending => exact Program.asks_bind pad.asks_processPending fun _ => Program.asks_pure _
  | service => exact absurd rfl hop
  | powerDown => exact hchores pad.asks_powerDown
  | powerUp => exact hchores pad.asks_powerUp

end TactilePad.Trackpad
