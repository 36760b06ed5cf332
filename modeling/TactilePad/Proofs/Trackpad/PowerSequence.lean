import TactilePad.Proofs.Trackpad.BringUp
import TactilePad.Proofs.Trackpad.Calls

/-!
# The order in which the trackpad is powered

* `power_is_sequenced`: wherever edges land, no command goes out before the trackpad was prepared, a
  bring-up ends with the first of its steps that is refused, every later power-up comes after the
  line was raised and the delay, and the line is released only by a call whose power-down command
  has just succeeded.

The ways that a power operation can go are listed (`PoweredDown`, `PoweredUp`); what each of them
keeps about the power of the sensor is `CallPowered`, which is then read off the histories of the
calls of a run.
-/

namespace TactilePad.Trackpad

variable {config : TrackpadConfig} {shutdown : ControlLine} {pad pad' : Trackpad}
  {t u : List (Exchange Peripheral)}

/-! ### Power operations -/

/-- A line that was raised if it is wired, and ten milliseconds if there is a line. -/
def powered (shutdown : ControlLine) : List (Exchange Peripheral) :=
  (if shutdown = .wired then [⟨.drive true, .ok ()⟩] else []) ++
    if shutdown.isPresent then [⟨.delay 10, ()⟩] else []

/-- The ways that a power-down can go. -/
inductive PoweredDown (pad : Trackpad) : List (Exchange Peripheral) → Prop
  /-- The sensor does not take the command. -/
  | refused (fault : BusFault) : PoweredDown pad (commandHistory .powerDown (.error fault))
  /-- The sensor is asleep, but the line cannot be released. -/
  | held (a : UInt8) (fault : BusFault) :
    PoweredDown pad [⟨.command .powerDown, .ok a⟩, ⟨.drive false, .error fault⟩]
  | released (a : UInt8) :
    PoweredDown pad (⟨.command .powerDown, .ok a⟩ ::
      ((if pad.shutdown = .wired then [⟨.drive false, .ok ()⟩] else []) ++
        [⟨.note (.poweredDown pad.config.id), ()⟩]))

/-- The ways that a power-up can go. -/
inductive PoweredUp (pad : Trackpad) : List (Exchange Peripheral) → Prop
  /-- The line cannot be raised. -/
  | unpowered (fault : BusFault) : PoweredUp pad [⟨.drive true, .error fault⟩]
  /-- The sensor is powered, but does not take the command. -/
  | refused (fault : BusFault) :
    PoweredUp pad (powered pad.shutdown ++ commandHistory .powerUp (.error fault))
  | woken (a : UInt8) :
    PoweredUp pad (powered pad.shutdown ++
      [⟨.command .powerUp, .ok a⟩, ⟨.note (.poweredUp pad.config.id), ()⟩])

/-- The line is driven if it is wired, and the answer says whether there is a line at all. -/
theorem yields_setPower {on : Bool} {result : Except DriverError Bool}
    (h : (pad.setPower on).run.Yields t result) :
    (∃ fault, t = [⟨.drive on, .error fault⟩] ∧ result = .error (.bus fault)) ∨
      (t = (if pad.shutdown = .wired then [⟨.drive on, .ok ()⟩] else []) ∧
        result = .ok pad.shutdown.isPresent) := by
  have hbind : (driveLine pad.shutdown on >>= fun x => pure (x.mapError .bus)).Yields t result := h
  rw [bind_pure_comp, Program.yields_map] at hbind
  obtain ⟨x, hdrive, rfl⟩ := hbind
  rcases ControlLine.yields_drive.mp hdrive with ⟨hline, rfl, rfl⟩ | ⟨hline, y, hy, rfl⟩
  · right
    rw [if_neg hline]
    exact ⟨rfl, rfl⟩
  · obtain rfl := Program.yields_request.mp hy
    cases y with
    | error fault => exact Or.inl ⟨fault, rfl, rfl⟩
    | ok _ =>
      right
      rw [if_pos hline, hline]
      exact ⟨rfl, rfl⟩

/-- There is no other way for a power-down to end. -/
theorem poweredDown_of_yields {result : Except DriverError Unit}
    (h : pad.powerDown.run.Yields t result) : PoweredDown pad t := by
  rcases yields_command_bind.mp h with ⟨fault, rfl, -⟩ | ⟨a, t₁, rfl, hrest⟩
  · exact .refused fault
  rcases Attempt.yields_bind.mp hrest with ⟨error, hpower, -⟩ | ⟨_, t₂, t₃, rfl, hpower, hnote⟩
  · rcases yields_setPower hpower with ⟨fault, rfl, -⟩ | ⟨-, hresult⟩
    · exact .held a fault
    · exact nomatch hresult
  · rcases yields_setPower hpower with ⟨fault, -, hresult⟩ | ⟨rfl, -⟩
    · exact nomatch hresult
    · obtain ⟨rfl, -⟩ := yields_note.mp hnote
      exact .released a

/-- There is no other way for a power-up to end. -/
theorem poweredUp_of_yields {result : Except DriverError Unit}
    (h : pad.powerUp.run.Yields t result) : PoweredUp pad t := by
  -- The command comes after the line and the delay.
  have hwake : ∀ {v : List (Exchange Peripheral)},
      (command .powerUp >>= fun _ => note (.poweredUp pad.config.id)).run.Yields v result →
        PoweredUp pad (powered pad.shutdown ++ v) := by
    intro v hv
    rcases yields_command_bind.mp hv with ⟨fault, rfl, -⟩ | ⟨a, v', rfl, hnote⟩
    · exact .refused fault
    · obtain ⟨rfl, -⟩ := yields_note.mp hnote
      exact .woken a
  rcases Attempt.yields_bind.mp h with ⟨error, hpower, -⟩ | ⟨present, t₁, t₂, rfl, hpower, hrest⟩
  · rcases yields_setPower hpower with ⟨fault, rfl, -⟩ | ⟨-, hresult⟩
    · exact .unpowered fault
    · exact nomatch hresult
  · rcases yields_setPower hpower with ⟨fault, -, hresult⟩ | ⟨rfl, hpresent⟩
    · exact nomatch hresult
    · obtain rfl := Except.ok.inj hpresent
      cases hp : pad.shutdown.isPresent with
      | false =>
        rw [hp] at hrest
        have h₁ := hwake hrest
        rwa [powered, hp, if_neg Bool.false_ne_true, List.append_nil] at h₁
      | true =>
        rw [hp] at hrest
        obtain ⟨slept, t₃, rfl, hcommand⟩ := Attempt.yields_ask_bind.mp hrest
        have h₁ := hwake hcommand
        rwa [powered, hp, if_pos rfl, List.append_assoc] at h₁

/-! ### Power in every call -/

instance : DrivesLine Peripheral where
  drive?
    | ⟨.drive level, x⟩ => some (level, x)
    | _ => none

/-- A power-up goes out over a line that was raised in the same call, and the line is released right
after a power-down that has succeeded. -/
def InSequence (shutdown : ControlLine) (before : List (Exchange Peripheral))
    (e : Exchange Peripheral) : Prop :=
  (e.request = .command .powerUp → before = powered shutdown) ∧
    (e.request = .drive false → ∃ a, before = [⟨.command .powerDown, .ok a⟩])

/-- What a call keeps about the power of the sensor. -/
structure CallPowered (shutdown : ControlLine) (t : List (Exchange Peripheral)) : Prop where
  inSequence : Throughout (InSequence shutdown) t
  /-- A power-down that is refused leaves the line alone. -/
  kept : ∀ fault, ⟨.command .powerDown, .error fault⟩ ∈ t → ∀ e ∈ t, driven? e = none

/-- A question of a worker run, or one that leads to it. -/
def Request.OfRun : Request → Prop
  | .command c => c.reads = true
  | .claim | .awaitRun | .report _ | .note _ => True
  | .busReady | .irqReady | .drive _ | .arm | .delay _ => False

/-- A worker run has nothing to do with the power. -/
theorem callPowered_of_runs (h : ∀ e ∈ t, Request.OfRun e.request) : CallPowered shutdown t := by
  constructor
  · intro before e after ht
    have he : Request.OfRun e.request := h e (ht ▸ List.mem_append_right before List.mem_cons_self)
    constructor
    · intro hr
      rw [hr] at he
      exact nomatch he
    · intro hr
      rw [hr] at he
      exact absurd he id
  · intro fault hmem
    exact nomatch h _ hmem

/-- Whatever a run comes to, it only reads, reports and logs. -/
theorem Polled.ofRun {result : Except DriverError (Option MotionReport × Trackpad)}
    (h : Polled pad t result) : ∀ e ∈ t, Request.OfRun e.request := by
  cases h <;>
    simp [commandHistory, motionHistory, MotionReport.events, InputEvent.report, Request.OfRun,
      Command.reads]

/-- Only a power-up and the release of the line have to come at a certain place. -/
def Request.isPlaced : Request → Bool
  | .command .powerUp | .drive false => true
  | _ => false

/-- Other questions may come anywhere. -/
theorem inSequence_of_not_placed {before : List (Exchange Peripheral)} {e : Exchange Peripheral}
    (he : Request.isPlaced e.request = false) : InSequence shutdown before e := by
  constructor
  · intro hr
    rw [hr] at he
    exact nomatch he
  · intro hr
    rw [hr] at he
    exact nomatch he

theorem inSequence_powerUp {x : Except BusFault UInt8} :
    InSequence shutdown (powered shutdown) ⟨.command .powerUp, x⟩ :=
  ⟨fun _ => rfl, nofun⟩

theorem inSequence_release {a : UInt8} {x : Except BusFault Unit} :
    InSequence shutdown [⟨.command .powerDown, .ok a⟩] ⟨.drive false, x⟩ :=
  ⟨nofun, fun _ => ⟨a, rfl⟩⟩

/-- Whether a power-down was refused. -/
def staysAwake : Exchange Peripheral → Bool
  | ⟨.command .powerDown, .error _⟩ => true
  | _ => false

/-- Where no power-down is refused, there is nothing to keep. -/
theorem callPowered_of_granted (hplaced : Throughout (InSequence shutdown) t)
    (hgranted : ∀ e ∈ t, staysAwake e = false) : CallPowered shutdown t where
  inSequence := hplaced
  kept _ hmem := nomatch hgranted _ hmem

/-- Raising the line and the delay are in sequence anywhere. -/
theorem throughout_powered : Throughout (InSequence shutdown) (powered shutdown) := by
  intro before e after h
  refine inSequence_of_not_placed ?_
  have he : e ∈ powered shutdown := h ▸ List.mem_append_right before List.mem_cons_self
  have hall : ∀ e ∈ powered shutdown, Request.isPlaced e.request = false := by
    cases shutdown <;> simp [powered, ControlLine.isPresent, Request.isPlaced]
  exact hall e he

/-- A power-down touches the line only after its command has succeeded. -/
theorem PoweredDown.callPowered (h : PoweredDown pad t) : CallPowered pad.shutdown t := by
  cases h with
  | refused fault =>
    constructor
    · simp only [commandHistory, throughout_cons, throughout_nil, and_true]
      exact ⟨inSequence_of_not_placed rfl, inSequence_of_not_placed rfl⟩
    · -- Neither the command nor the record of its fault drives the line.
      intro fault' hmem
      simp only [commandHistory, List.forall_mem_cons]
      exact ⟨rfl, rfl, List.forall_mem_nil _⟩
  | held a fault =>
    apply callPowered_of_granted
    · simp only [throughout_cons, throughout_nil, and_true]
      exact ⟨inSequence_of_not_placed rfl, inSequence_release⟩
    · simp [staysAwake]
  | released a =>
    apply callPowered_of_granted
    · -- Only a wired line is there to be released.
      cases pad.shutdown with
      | wired =>
        simp only [if_pos, List.singleton_append, throughout_cons, throughout_nil, and_true]
        exact ⟨inSequence_of_not_placed rfl, inSequence_release, inSequence_of_not_placed rfl⟩
      | absent | unconnected =>
        simp only [reduceCtorEq, if_false, List.nil_append, throughout_cons, throughout_nil,
          and_true]
        exact ⟨inSequence_of_not_placed rfl, inSequence_of_not_placed rfl⟩
    · cases pad.shutdown <;> simp [staysAwake]

/-- A power-up sends its command right behind the raised line and the delay. -/
theorem PoweredUp.callPowered (h : PoweredUp pad t) : CallPowered pad.shutdown t := by
  have hpowered : ∀ e ∈ powered pad.shutdown, staysAwake e = false := by
    cases pad.shutdown <;> simp [powered, ControlLine.isPresent, staysAwake]
  cases h with
  | unpowered fault =>
    apply callPowered_of_granted
    · simp only [throughout_cons, throughout_nil, and_true]
      exact inSequence_of_not_placed rfl
    · simp [staysAwake]
  | refused fault =>
    apply callPowered_of_granted
    · simp only [commandHistory, throughout_append, throughout_cons, throughout_nil, and_true,
        List.append_nil]
      exact ⟨throughout_powered, inSequence_powerUp, inSequence_of_not_placed rfl⟩
    · simp only [commandHistory, List.forall_mem_append, List.forall_mem_cons]
      exact ⟨hpowered, rfl, rfl, List.forall_mem_nil _⟩
  | woken a =>
    apply callPowered_of_granted
    · simp only [throughout_append, throughout_cons, throughout_nil, and_true, List.append_nil]
      exact ⟨throughout_powered, inSequence_powerUp, inSequence_of_not_placed rfl⟩
    · simp only [List.forall_mem_append, List.forall_mem_cons]
      exact ⟨hpowered, rfl, rfl, List.forall_mem_nil _⟩

theorem Opening.ofRun (h : Opening t) : ∀ e ∈ t, Request.OfRun e.request := by
  cases h <;> simp [Request.OfRun]

/-- Only the power operations touch the power of the sensor. -/
theorem Performed.callPowered (h : Performed pad t pad') : CallPowered pad.shutdown t := by
  cases h with
  | run opening polled =>
    apply callPowered_of_runs
    rw [List.forall_mem_append]
    exact ⟨opening.ofRun, polled.ofRun⟩
  | idle =>
    apply callPowered_of_runs
    simp [Request.OfRun]
  | poweredDown yields => exact (poweredDown_of_yields yields).callPowered
  | poweredUp yields => exact (poweredUp_of_yields yields).callPowered

/-! ### Power in a whole run -/

/-- What only a power-down asks for. -/
def Request.powersDown : Request → Bool
  | .command .powerDown | .drive false => true
  | _ => false

/-- No step of a bring-up puts the sensor to sleep. -/
theorem powersDown_of_mem_bringUpSteps {r : Peripheral.Request} (h : r ∈ bringUpSteps shutdown) :
    Request.powersDown r = false := by
  have hall : ((bringUpSteps shutdown).all fun r => !Request.powersDown r) = true := by
    cases shutdown <;> rfl
  exact Bool.not_eq_true' _ ▸ List.all_eq_true.mp hall r h

/-- A run of the driver begins with a bring-up that came to its end, and keeps the line that it has
brought up. -/
theorem Reached.begun {calls : List (List (Exchange Peripheral))}
    (h : Reached config shutdown calls pad) :
    pad.shutdown = shutdown ∧ config.validate = .ok () ∧
      ∃ u rest, calls = u :: rest ∧ prepared shutdown <+: unlogged u := by
  -- The operations after the bring-up change neither the line nor the first history.
  induction h with
  | @bringUp u pad up =>
    obtain ⟨hvalid, rfl, htaken⟩ := (broughtUp_of_yields up).of_ok
    exact ⟨rfl, hvalid, u, [], rfl, prepared_prefix htaken (List.prefix_append _ _)⟩
  | @perform calls u pad pad' op reply run step ih =>
    obtain ⟨hline, hvalid, u₀, rest, rfl, hprefix⟩ := ih
    refine ⟨?_, hvalid, u₀, rest ++ [u], rfl, hprefix⟩
    rw [(performed_of_yields step).accounted.moves]
    cases motion? pad.config.axes u <;> exact hline

/-- What the moments of a run tell of the power of the sensor. -/
structure PowerSequenced (config : TrackpadConfig) (shutdown : ControlLine)
    (t : List (Moment Peripheral Edge Operation))
    (s : Situation Peripheral Handoff (Option Trackpad)) : Prop where
  /-- The log aside, the first that is asked is the preparation, and a command comes after it. -/
  prepared : ∀ before c after, t = before ++ .asked (.command c) :: after →
    config.validate = .ok () ∧ Trackpad.prepared shutdown <+: unlogged (exchanges before)
  /-- A bring-up that has ended took its steps up to the first that was refused, with whose error it
  ended, and there is a driver only if none was. -/
  broughtUp : ∀ pad?, s.stage = .ready (.done pad?) → (∀ op, .called op ∉ t) →
    ∃ result, (bringUp config shutdown).run.Yields (exchanges t) result ∧
      pad? = result.toOption ∧ BroughtUp config shutdown (exchanges t) result
  /-- After the bring-up, a power-up goes out right after the line was raised and the delay, in the
  same call. -/
  woken : ∀ before after, t = before ++ .asked (.command .powerUp) :: after →
    ∀ front last, historiesOf before = front ++ [last] → front ≠ [] → last = powered shutdown
  /-- The line is released right after a power-down of the same call has succeeded. -/
  released : ∀ before after, t = before ++ .asked (.drive false) :: after →
    ∃ front a, historiesOf before = front ++ [[⟨.command .powerDown, .ok a⟩]]
  /-- A call whose power-down was refused leaves the line as it was. -/
  kept : ∀ front (u : List (Exchange Peripheral)) back, historiesOf t = front ++ u :: back →
    ∀ fault, ⟨.command .powerDown, .error fault⟩ ∈ u →
      lineLevel (front.flatten ++ u) = lineLevel front.flatten

variable {moments before after : List (Moment Peripheral Edge Operation)}
  {s : Situation Peripheral Handoff (Option Trackpad)}

/-- The history of a call is one of the bring-up, or of an operation after it. -/
theorem call_cases {front : List (List (Exchange Peripheral))}
    {p : Program Peripheral (Option Trackpad)} {a : Option Trackpad}
    (hcurrent : handoff.Current (attempted config shutdown) front p) (h : p.Yields u a) :
    (front = [] ∧ ∃ result, a = result.toOption ∧
      (bringUp config shutdown).run.Yields u result ∧ BroughtUp config shutdown u result) ∨
    (CallPowered shutdown u ∧ config.validate = .ok () ∧
      ∃ v rest, front = v :: rest ∧ Trackpad.prepared shutdown <+: unlogged v) := by
  rcases operates_handoff.program_cases hcurrent with ⟨hfront, rfl⟩ | ⟨pad, op, hreached, rfl⟩
  · obtain ⟨result, hup, ha⟩ := Program.yields_map.mp h
    exact Or.inl ⟨hfront, result, ha, hup, broughtUp_of_yields hup⟩
  · obtain ⟨⟨reply, pad'⟩, hop, -⟩ := Program.yields_map.mp h
    obtain ⟨rfl, hbegun⟩ := hreached.begun
    exact Or.inr ⟨(performed_of_yields hop).callPowered, hbegun⟩

/-- A question of a run belongs to the bring-up, where the steps before it were granted, or to a
later call. -/
theorem asked_cases {r : Peripheral.Request} (hr : TellsLog.isNote r = false)
    (hrun : handoff.Runs (beginning config shutdown) (before ++ .asked r :: after) s) :
    ∃ front last, historiesOf before = front ++ [last] ∧ config.validate = .ok () ∧
      ((front = [] ∧ ∃ done rest, bringUpSteps shutdown = done ++ r :: rest ∧
          Taken refusal? (done.map .required) (unlogged last)) ∨
        ((∃ x, InSequence shutdown last ⟨r, x⟩) ∧
          ∃ v rest, front = v :: rest ∧ Trackpad.prepared shutdown <+: unlogged v)) := by
  obtain ⟨front, last, p, hcalls, hcurrent, x, v, a, hyields⟩ :=
    Scene.asked_of_runs answerable hrun
  refine ⟨front, last, hcalls, ?_⟩
  -- The question belongs to the bring-up or to an operation after it.
  rcases call_cases hcurrent hyields with ⟨hfront, result, -, -, hup⟩ | ⟨hcall, hvalid, hbegun⟩
  · obtain ⟨hvalid, hsteps⟩ := hup.granted_before hr
    exact ⟨hvalid, Or.inl ⟨hfront, hsteps⟩⟩
  · exact ⟨hvalid, Or.inr ⟨⟨x, hcall.inSequence last ⟨r, x⟩ v rfl⟩, hbegun⟩⟩

/-- Wherever edges land while a trackpad is brought up and operated on, and whatever fails: the
trackpad is powered and put to sleep step by step. -/
theorem power_is_sequenced (hrun : handoff.Runs (beginning config shutdown) moments s) :
    PowerSequenced config shutdown moments s where
  prepared before c after ht := by
    subst ht
    obtain ⟨front, last, hcalls, hvalid, hcases⟩ := asked_cases rfl hrun
    refine ⟨hvalid, ?_⟩
    rw [← flatten_historiesOf, hcalls]
    rcases hcases with ⟨rfl, done, rest, hsteps, htaken⟩ | ⟨-, v, rest, rfl, hprefix⟩
    · rw [List.nil_append, List.flatten_singleton]
      exact prepared_prefix htaken (preparation_prefix_of_command hsteps)
    · rw [List.cons_append, List.flatten_cons, unlogged_append]
      exact hprefix.trans (List.prefix_append _ _)
  broughtUp pad? hstage hcalled := by
    obtain ⟨front, last, p, hcalls, hcurrent, hlast⟩ := Scene.ended_of_runs hrun hstage
    rw [historiesOf_of_no_call hcalled] at hcalls
    -- There is only one history.
    obtain ⟨rfl, hall⟩ := List.append_inj' ((List.nil_append _).trans hcalls) rfl
    obtain rfl := List.head_eq_of_cons_eq hall
    rcases call_cases hcurrent hlast with ⟨-, result, hpad, hyields, hup⟩ | ⟨-, -, v, rest, h, -⟩
    · exact ⟨result, hyields, hpad, hup⟩
    · exact nomatch h
  woken before after ht front last hcalls hfront := by
    subst ht
    obtain ⟨front', last', hcalls', -, hcases⟩ := asked_cases rfl hrun
    obtain ⟨rfl, hlast⟩ := List.append_inj' (hcalls.symm.trans hcalls') rfl
    obtain rfl := List.head_eq_of_cons_eq hlast
    rcases hcases with ⟨rfl, -⟩ | ⟨⟨x, hsequence⟩, -⟩
    · exact absurd rfl hfront
    · exact hsequence.1 rfl
  released before after ht := by
    subst ht
    obtain ⟨front, last, hcalls, -, hcases⟩ := asked_cases rfl hrun
    rcases hcases with ⟨-, done, rest, hsteps, -⟩ | ⟨⟨x, hsequence⟩, -⟩
    · have hmem : (.drive false : Peripheral.Request) ∈ bringUpSteps shutdown :=
        hsteps ▸ List.mem_append_right done List.mem_cons_self
      exact nomatch powersDown_of_mem_bringUpSteps hmem
    · obtain ⟨a, rfl⟩ := hsequence.2 rfl
      exact ⟨front, a, hcalls⟩
  kept front u back hcalls fault hmem := by
    have hu : u ∈ historiesOf moments := hcalls ▸ List.mem_append_right front List.mem_cons_self
    obtain ⟨front', q, v, a, hcurrent, hyields⟩ := Scene.history_of_runs answerable hrun hu
    refine lineLevel_append_of_silent ?_
    rcases call_cases hcurrent hyields with ⟨-, result, -, -, hup⟩ | ⟨hcall, -⟩
    · -- A bring-up puts nothing to sleep.
      obtain ⟨u₁, u₂, rfl⟩ := List.append_of_mem hmem
      rw [List.append_assoc, List.cons_append] at hup
      obtain ⟨-, done, rest, hsteps, -⟩ := hup.granted_before rfl
      have hmem' : (.command .powerDown : Peripheral.Request) ∈ bringUpSteps shutdown :=
        hsteps ▸ List.mem_append_right done List.mem_cons_self
      exact nomatch powersDown_of_mem_bringUpSteps hmem'
    · intro e he
      exact hcall.kept fault (List.mem_append_left v hmem) e (List.mem_append_left v he)

/-- A bring-up on a wired line, a power-down that is refused, one that is not, and a power-up, while
edges land. -/
def powerCycle : List (Moment Peripheral Edge Operation) :=
  [.asked .busReady, .answered ⟨.busReady, true⟩, .asked .irqReady, .answered ⟨.irqReady, true⟩,
    .asked (.drive true), .answered ⟨.drive true, .ok ()⟩, .asked .arm, .answered ⟨.arm, .ok ()⟩,
    .asked (.delay startupDelay), .answered ⟨.delay startupDelay, ()⟩, .asked (.command .config1),
    .event .interrupt, .answered ⟨.command .config1, .ok 0⟩, .asked (.command .config2),
    .answered ⟨.command .config2, .ok 0⟩, .asked (.command .powerUp),
    .answered ⟨.command .powerUp, .ok 0⟩, .asked (.note (.initialised 0 {})),
    .answered ⟨.note (.initialised 0 {}), ()⟩,
    .called .powerDown, .asked (.command .powerDown),
    .answered ⟨.command .powerDown, .error (.spi .other)⟩,
    .asked (.note (.commandFailed .powerDown (.spi .other))),
    .answered ⟨.note (.commandFailed .powerDown (.spi .other)), ()⟩,
    .called .powerDown, .asked (.command .powerDown), .answered ⟨.command .powerDown, .ok 0⟩,
    .asked (.drive false), .event .thread, .answered ⟨.drive false, .ok ()⟩,
    .asked (.note (.poweredDown 0)), .answered ⟨.note (.poweredDown 0), ()⟩,
    .called .powerUp, .asked (.drive true), .answered ⟨.drive true, .ok ()⟩,
    .asked (.delay startupDelay), .answered ⟨.delay startupDelay, ()⟩, .asked (.command .powerUp),
    .answered ⟨.command .powerUp, .ok 0⟩, .asked (.note (.poweredUp 0)),
    .answered ⟨.note (.poweredUp 0), ()⟩]

theorem runs_powerCycle :
    handoff.Runs (beginning {} .wired) powerCycle
      ⟨⟨⟨true, .idle, 2, 0⟩, .fresh⟩, .ready (.done (some ⟨{}, .wired, 0, 0⟩))⟩ := by
  refine .cons (.asked _ _ _) (.cons (.answered rfl) ?_)
  refine .cons (.asked _ _ _) (.cons (.answered rfl) ?_)
  refine .cons (.asked _ _ _) (.cons (.answered rfl) ?_)
  refine .cons (.asked _ _ _) (.cons (.answered rfl) ?_)
  refine .cons (.asked _ _ _) (.cons (.answered rfl) ?_)
  refine .cons (.asked _ _ _) (.cons (.event _ _ _) (.cons (.answered rfl) ?_))
  refine .cons (.asked _ _ _) (.cons (.answered rfl) ?_)
  refine .cons (.asked _ _ _) (.cons (.answered rfl) ?_)
  refine .cons (.asked _ _ _) (.cons (.answered rfl) ?_)
  refine .cons (.called ⟨_, rfl, rfl, rfl⟩) ?_
  refine .cons (.asked _ _ _) (.cons (.answered rfl) ?_)
  refine .cons (.asked _ _ _) (.cons (.answered rfl) ?_)
  refine .cons (.called ⟨_, rfl, rfl, rfl⟩) ?_
  refine .cons (.asked _ _ _) (.cons (.answered rfl) ?_)
  refine .cons (.asked _ _ _) (.cons (.event _ _ _) (.cons (.answered rfl) ?_))
  refine .cons (.asked _ _ _) (.cons (.answered rfl) ?_)
  refine .cons (.called ⟨_, rfl, rfl, rfl⟩) ?_
  refine .cons (.asked _ _ _) (.cons (.answered rfl) ?_)
  refine .cons (.asked _ _ _) (.cons (.answered rfl) ?_)
  refine .cons (.asked _ _ _) (.cons (.answered rfl) ?_)
  exact .cons (.asked _ _ _) (.cons (.answered rfl) .start)

theorem power_is_sequenced_powerCycle :
    PowerSequenced {} .wired powerCycle
      ⟨⟨⟨true, .idle, 2, 0⟩, .fresh⟩, .ready (.done (some ⟨{}, .wired, 0, 0⟩))⟩ :=
  power_is_sequenced runs_powerCycle

end TactilePad.Trackpad
