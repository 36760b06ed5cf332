import Mathlib.Algebra.Ring.Int.Defs
import TactilePad.Proofs.Trackpad.Runs

/-!
# What the trackpad driver reports

* `Reached.accounted`: whatever the sensor answers and whatever operations are carried out, the
  reported events are one complete report for each worker run that read a displacement, the position
  is their sum modulo 2^16, a run that ends early reports nothing and moves nothing, and every
  command that failed left exactly one error in the log.

The events, the commands and the errors of a history are read off it by `events`, `commands` and
`errors`.  What one call adds to them is `CallAccounted`, shown for each of the ways that a call can
end (`Performed.accounted`).
-/

namespace TactilePad.Trackpad

/-! ### Readings of a history -/

def eventOf? : Exchange Peripheral → Option InputEvent
  | ⟨.report event, _⟩ => some event
  | _ => none

def commandOf? : Exchange Peripheral → Option (Command × Except BusFault UInt8)
  | ⟨.command c, x⟩ => some (c, x)
  | _ => none

def errorOf? : Exchange Peripheral → Option LogRecord
  | ⟨.note notice, _⟩ => if notice.record.level = .error then some notice.record else none
  | _ => none

/-- The events that were reported. -/
def events (t : List (Exchange Peripheral)) : List InputEvent :=
  t.filterMap eventOf?

/-- The commands that were sent, with their answers. -/
def commands (t : List (Exchange Peripheral)) : List (Command × Except BusFault UInt8) :=
  t.filterMap commandOf?

/-- The log records of the level of errors. -/
def errors (t : List (Exchange Peripheral)) : List LogRecord :=
  t.filterMap errorOf?

/-- The record that a command has to leave in the log, if it failed. -/
def faultRecord? : Command × Except BusFault UInt8 → Option LogRecord
  | (c, .error fault) => some (Notice.commandFailed c fault).record
  | (_, .ok _) => none

/-- Whether a worker run ends with the command: it failed, or the sensor has not moved. -/
def endsRun : Command × Except BusFault UInt8 → Bool
  | (_, .error _) => true
  | (.readMotion, .ok status) => status &&& motionFlag == 0
  | (_, .ok _) => false

/-- The motion that a call has read: its three commands succeeded, and the status tells of a
displacement. -/
def motion? (axes : AxisTransform) (t : List (Exchange Peripheral)) : Option MotionReport :=
  match commands t with
  | [(.readMotion, .ok status), (.readDeltaX, .ok rawX), (.readDeltaY, .ok rawY)] =>
    if status &&& motionFlag = 0 then none else some (motionOf axes (rawX, rawY))
  | _ => none

/-- The counts of an event along the first axis. -/
def alongX (event : InputEvent) : Int :=
  match event.kind with
  | .relX d => d.toInt
  | .relY _ | .sync => 0

/-- The counts of an event along the second axis. -/
def alongY (event : InputEvent) : Int :=
  match event.kind with
  | .relY d => d.toInt
  | .relX _ | .sync => 0

section Readings

variable {t u : List (Exchange Peripheral)}

@[simp] theorem events_append : events (t ++ u) = events t ++ events u := List.filterMap_append

@[simp] theorem commands_append : commands (t ++ u) = commands t ++ commands u :=
  List.filterMap_append

@[simp] theorem errors_append : errors (t ++ u) = errors t ++ errors u := List.filterMap_append

@[simp] theorem events_commandHistory (c : Command) (x : Except BusFault UInt8) :
    events (commandHistory c x) = [] := by
  cases x <;> rfl

@[simp] theorem commands_commandHistory (c : Command) (x : Except BusFault UInt8) :
    commands (commandHistory c x) = [(c, x)] := by
  cases x <;> rfl

@[simp] theorem events_motionHistory (device : UInt8) (motion : MotionReport) :
    events (motionHistory device motion) = motion.events device := rfl

@[simp] theorem commands_motionHistory (device : UInt8) (motion : MotionReport) :
    commands (motionHistory device motion) = [] := rfl

/-- The errors in the log are those of the commands that failed, one for each and in their order. -/
def Logged (t : List (Exchange Peripheral)) : Prop :=
  errors t = (commands t).filterMap faultRecord?

theorem Logged.append (ht : Logged t) (hu : Logged u) : Logged (t ++ u) := by
  unfold Logged at ht hu ⊢
  rw [errors_append, commands_append, List.filterMap_append, ht, hu]

theorem logged_commandHistory (c : Command) (x : Except BusFault UInt8) :
    Logged (commandHistory c x) := by
  cases x <;> rfl

theorem logged_motionHistory (device : UInt8) (motion : MotionReport) :
    Logged (motionHistory device motion) := rfl

/-- Nothing is to be read off a history: no event, no command and no error. -/
structure Silent (t : List (Exchange Peripheral)) : Prop where
  events : events t = []
  commands : commands t = []
  errors : errors t = []

theorem Silent.append (ht : Silent t) (hu : Silent u) : Silent (t ++ u) where
  events := by rw [events_append, ht.events, hu.events, List.append_nil]
  commands := by rw [commands_append, ht.commands, hu.commands, List.append_nil]
  errors := by rw [errors_append, ht.errors, hu.errors, List.append_nil]

theorem Silent.logged (h : Silent t) : Logged t := by
  rw [Logged, h.errors, h.commands]
  rfl

end Readings

/-- A question that leaves no event, no command and no error. -/
def Request.Silent : Request → Prop
  | .command _ | .report _ => False
  | .note notice => notice.record.level ≠ .error
  | .busReady | .irqReady | .drive _ | .arm | .delay _ | .claim | .awaitRun => True

/-- Questions that are silent leave silent histories. -/
theorem silent_of_requests {t : List (Exchange Peripheral)}
    (h : ∀ e ∈ t, Request.Silent e.request) : Silent t := by
  have hall : ∀ e ∈ t, eventOf? e = none ∧ commandOf? e = none ∧ errorOf? e = none := by
    rintro ⟨r, x⟩ he
    have hr := h _ he
    cases r with
    | command c => exact absurd hr id
    | report event => exact absurd hr id
    | note notice => exact ⟨rfl, rfl, if_neg hr⟩
    | _ => exact ⟨rfl, rfl, rfl⟩
  exact ⟨List.filterMap_eq_nil_iff.mpr fun e he => (hall e he).1,
    List.filterMap_eq_nil_iff.mpr fun e he => (hall e he).2.1,
    List.filterMap_eq_nil_iff.mpr fun e he => (hall e he).2.2⟩

/-! ### What one call adds -/

/-- The accounts of one call. -/
structure CallAccounted (pad : Trackpad) (t : List (Exchange Peripheral)) (pad' : Trackpad) :
    Prop where
  /-- It reports the motion that it has read, if any, and nothing else. -/
  reports : events t =
    (motion? pad.config.axes t).toList.flatMap (MotionReport.events pad.config.id)
  /-- The position moves by that motion, and nothing else changes. -/
  moves : pad' = (motion? pad.config.axes t).elim pad pad.moveBy
  /-- After a command that ends the run no other is sent, and there is no motion. -/
  ended : ∀ before x after, commands t = before ++ x :: after → endsRun x = true →
    after = [] ∧ motion? pad.config.axes t = none
  logged : Logged t

variable {pad pad' : Trackpad} {t u : List (Exchange Peripheral)}

/-- A silent beginning adds nothing. -/
theorem CallAccounted.of_silent_append (ht : Silent t) (hu : CallAccounted pad u pad') :
    CallAccounted pad (t ++ u) pad' := by
  have hevents : events (t ++ u) = events u := by rw [events_append, ht.events, List.nil_append]
  have hcommands : commands (t ++ u) = commands u := by
    rw [commands_append, ht.commands, List.nil_append]
  have hmotion : motion? pad.config.axes (t ++ u) = motion? pad.config.axes u := by
    rw [motion?, hcommands, motion?]
  constructor
  · rw [hevents, hmotion, hu.reports]
  · rw [hmotion, ← hu.moves]
  · rw [hcommands, hmotion]
    exact hu.ended
  · exact ht.logged.append hu.logged

/-- Only the last command of a list ends the run. -/
theorem eq_nil_of_endsRun {xs before after : List (Command × Except BusFault UInt8)}
    {x : Command × Except BusFault UInt8} (hxs : ∀ y ∈ xs.dropLast, endsRun y = false)
    (h : xs = before ++ x :: after) (hx : endsRun x = true) : after = [] := by
  cases after with
  | nil => rfl
  | cons y after =>
    have hmem : x ∈ xs.dropLast := by
      rw [h, List.dropLast_append_of_ne_nil (List.cons_ne_nil _ _), List.dropLast_cons_cons]
      exact List.mem_append_right _ List.mem_cons_self
    exact nomatch hx.symm.trans (hxs x hmem)

/-- The accounts of a call without motion. -/
theorem accounted_of_motionless (hevents : events t = [])
    (hmotion : motion? pad.config.axes t = none)
    (hcommands : ∀ y ∈ (commands t).dropLast, endsRun y = false)
    (hlogged : Logged t) : CallAccounted pad t pad where
  reports := by rw [hevents, hmotion]; rfl
  moves := by rw [hmotion]; rfl
  ended _ _ _ ht hx := ⟨eq_nil_of_endsRun hcommands ht hx, hmotion⟩
  logged := hlogged

/-- A status that tells of motion does not end the run. -/
theorem endsRun_readMotion {status : UInt8} (h : status &&& motionFlag ≠ 0) :
    endsRun (.readMotion, .ok status) = false :=
  beq_eq_false_iff_ne.mpr h

/-- A worker run keeps its accounts, wherever it ends. -/
theorem Polled.accounted {result : Except DriverError (Option MotionReport × Trackpad)}
    (h : Polled pad t result) : CallAccounted pad t (pad.afterRun result) := by
  cases h with
  | statusFault fault => exact accounted_of_motionless rfl rfl nofun rfl
  | still hstill => exact accounted_of_motionless rfl rfl nofun rfl
  | deltaXFault hmoving fault =>
    refine accounted_of_motionless rfl rfl ?_ rfl
    intro y hy
    obtain rfl := List.mem_singleton.mp hy
    exact endsRun_readMotion hmoving
  | deltaYFault hmoving rawX fault =>
    refine accounted_of_motionless rfl rfl ?_ rfl
    intro y hy
    rcases List.mem_cons.mp hy with rfl | hy
    · exact endsRun_readMotion hmoving
    · obtain rfl := List.mem_singleton.mp hy
      rfl
  | @moved status hmoving raw =>
    have hmotion : motion? pad.config.axes (commandHistory .readMotion (.ok status) ++
        (commandHistory .readDeltaX (.ok raw.1) ++ (commandHistory .readDeltaY (.ok raw.2) ++
          motionHistory pad.config.id (motionOf pad.config.axes raw)))) =
        some (motionOf pad.config.axes raw) := by
      simp [motion?, hmoving]
    constructor
    · rw [hmotion]
      simp
    · rw [hmotion]
      rfl
    · -- None of the three commands ends the run.
      intro before x after hx hends
      have hmem : x ∈ [(Command.readMotion, Except.ok status), (.readDeltaX, .ok raw.1),
          (.readDeltaY, .ok raw.2)] := by
        have : x ∈ before ++ x :: after := List.mem_append_right _ List.mem_cons_self
        rw [← hx] at this
        simpa using this
      simp only [List.mem_cons, List.not_mem_nil, or_false] at hmem
      rcases hmem with rfl | rfl | rfl
      · exact nomatch hends.symm.trans (endsRun_readMotion hmoving)
      · exact nomatch hends
      · exact nomatch hends
    · exact (logged_commandHistory _ _).append ((logged_commandHistory _ _).append
        ((logged_commandHistory _ _).append (logged_motionHistory _ _)))

/-! ### Chores -/

/-- A call whose commands read nothing shows no motion. -/
theorem motion?_eq_none_of_chores {axes : AxisTransform}
    (h : ∀ e ∈ t, Request.Chore e.request) : motion? axes t = none := by
  have hreads : ∀ x ∈ commands t, x.1.reads = false := by
    intro x hx
    obtain ⟨⟨r, answer⟩, he, hr⟩ := List.mem_filterMap.mp hx
    cases r with
    | command c =>
      obtain rfl := Option.some.inj hr
      exact h _ he
    | _ => exact nomatch hr
  -- The three commands of a report read, and chores do not.
  unfold motion?
  split
  · next status rawX rawY hcommands =>
    have hread := hreads (.readMotion, .ok status) (hcommands ▸ List.mem_cons_self)
    exact nomatch hread
  · rfl

/-- Chores report nothing. -/
theorem events_eq_nil_of_chores (h : ∀ e ∈ t, Request.Chore e.request) : events t = [] := by
  refine List.filterMap_eq_nil_iff.mpr ?_
  rintro ⟨r, x⟩ he
  cases r with
  | report event => exact absurd (h _ he) id
  | _ => rfl

/-- A chore around one command keeps its accounts. -/
theorem accounted_of_chore {front back : List (Exchange Peripheral)} {c : Command}
    {x : Except BusFault UInt8} (ht : t = front ++ (commandHistory c x ++ back))
    (hchores : ∀ e ∈ t, Request.Chore e.request) (hfront : Silent front) (hback : Silent back) :
    CallAccounted pad t pad := by
  have hcommands : commands t = [(c, x)] := by
    simp [ht, hfront.commands, hback.commands]
  refine accounted_of_motionless ?_ (motion?_eq_none_of_chores hchores) ?_ ?_
  · simp [ht, hfront.events, hback.events]
  · rw [hcommands]
    exact nofun
  · rw [ht]
    exact hfront.logged.append ((logged_commandHistory c x).append hback.logged)

/-- A silent call leaves the position where it was. -/
theorem accounted_of_silent (ht : Silent t) : CallAccounted pad t pad := by
  have hmotion : motion? pad.config.axes t = none := by rw [motion?, ht.commands]
  refine accounted_of_motionless ht.events hmotion ?_ ht.logged
  rw [ht.commands]
  exact nofun

theorem silent_nil : Silent [] := ⟨rfl, rfl, rfl⟩

theorem asks_silent_setPower (pad : Trackpad) (on : Bool) :
    (pad.setPower on).run.Asks Request.Silent :=
  Program.asks_bind (asks_driveLine trivial) fun _ => Program.asks_pure _

theorem accounted_powerDown {result : Except DriverError Unit}
    (h : pad.powerDown.run.Yields t result) : CallAccounted pad t pad := by
  have hchores : ∀ e ∈ t, Request.Chore e.request := fun e he => pad.asks_powerDown.of_mem h he
  rcases yields_command_bind.mp h with ⟨fault, ht, -⟩ | ⟨a, t', ht, hrest⟩
  · refine accounted_of_chore (c := .powerDown) (x := .error fault) ?_ hchores silent_nil silent_nil
    rw [ht, List.append_nil, List.nil_append]
  · have hask : (pad.setPower false >>= fun _ => note (.poweredDown pad.config.id)).run.Asks
        Request.Silent :=
      Attempt.asks_bind (pad.asks_silent_setPower false) fun _ => asks_note nofun
    have hback : Silent t' := silent_of_requests fun e he => hask.of_mem hrest he
    exact accounted_of_chore (ht.trans (List.nil_append _).symm) hchores silent_nil hback

theorem accounted_powerUp {result : Except DriverError Unit}
    (h : pad.powerUp.run.Yields t result) : CallAccounted pad t pad := by
  have hchores : ∀ e ∈ t, Request.Chore e.request := fun e he => pad.asks_powerUp.of_mem h he
  have hsilent : ∀ {u : List (Exchange Peripheral)} {x : Except DriverError Bool},
      (pad.setPower true).run.Yields u x → Silent u :=
    fun hu => silent_of_requests fun e he => (pad.asks_silent_setPower true).of_mem hu he
  -- The command comes after the line and the delay, and only the log record after it.
  have hwake : ∀ {front u : List (Exchange Peripheral)}, t = front ++ u → Silent front →
      (command .powerUp >>= fun _ => note (.poweredUp pad.config.id)).run.Yields u result →
        CallAccounted pad t pad := by
    intro front u ht hfront hu
    rcases yields_command_bind.mp hu with ⟨fault, rfl, -⟩ | ⟨a, u', rfl, hnote⟩
    · refine accounted_of_chore (c := .powerUp) (x := .error fault) ?_ hchores hfront silent_nil
      rw [ht, List.append_nil]
    · obtain ⟨rfl, -⟩ := yields_note.mp hnote
      exact accounted_of_chore ht hchores hfront ⟨rfl, rfl, rfl⟩
  rcases Attempt.yields_bind.mp h with ⟨error, hpower, -⟩ | ⟨present, t₁, t₂, ht, hpower, hrest⟩
  · exact accounted_of_silent (hsilent hpower)
  · cases present with
    | false => exact hwake ht (hsilent hpower) hrest
    | true =>
      obtain ⟨answer, t₃, rfl, hcommand⟩ := Attempt.yields_ask_bind.mp hrest
      have hdelay : Silent [⟨.delay startupDelay, answer⟩] := ⟨rfl, rfl, rfl⟩
      refine hwake ?_ ((hsilent hpower).append hdelay) hcommand
      rw [ht, ← List.singleton_append, List.append_assoc]

theorem Opening.silent (h : Opening t) : Silent t := by
  cases h <;> exact ⟨rfl, rfl, rfl⟩

/-- Every operation keeps its accounts. -/
theorem Performed.accounted (h : Performed pad t pad') : CallAccounted pad t pad' := by
  cases h with
  | run opening polled => exact polled.accounted.of_silent_append opening.silent
  | idle => exact accounted_of_silent ⟨rfl, rfl, rfl⟩
  | poweredDown yields => exact accounted_powerDown yields
  | poweredUp yields => exact accounted_powerUp yields

/-! ### Bring-up -/

variable {config : TrackpadConfig} {shutdown : ControlLine}

/-- An access that succeeds leaves nothing to be read off the history. -/
theorem silent_of_orNote_ok {α : Type} {notice : BusFault → Notice}
    {p : Program Peripheral (Except BusFault α)} {a : α} (hp : p.Asks Request.Silent)
    (h : (orNote notice p).run.Yields t (.ok a)) : Silent t := by
  rcases yields_orNote.mp h with ⟨a', hyields, -⟩ | ⟨fault, t', -, -, hresult⟩
  · exact silent_of_requests fun e he => hp.of_mem hyields he
  · exact nomatch hresult

/-- What is refused does not succeed. -/
theorem not_yields_refusal {α : Type} {notice : Notice} {error : DriverError}
    {f : Unit → Attempt Peripheral α} {a : α} :
    ¬ (note notice >>= fun _ => throw error >>= f).run.Yields t (.ok a) :=
  fun h => nomatch (yields_refusal.mp h).2

/-- A bring-up that succeeds leaves a driver at the origin, and no command of it has failed. -/
theorem yields_bringUp_ok (h : (bringUp config shutdown).run.Yields t (.ok pad)) :
    pad = { config, shutdown } ∧ Logged t := by
  obtain ⟨_, t₀, t₁, rfl, hvalid, h₁⟩ := Attempt.yields_bind_ok.mp h
  obtain ⟨rfl, -⟩ := Attempt.yields_ofExcept.mp hvalid
  obtain ⟨busReady, t₂, rfl, h₂⟩ := Attempt.yields_ask_bind.mp h₁
  cases busReady with
  | false => exact absurd h₂ not_yields_refusal
  | true =>
  obtain ⟨irqReady, t₃, rfl, h₃⟩ := Attempt.yields_ask_bind.mp h₂
  cases irqReady with
  | false => exact absurd h₃ not_yields_refusal
  | true =>
  obtain ⟨_, t₄, t₅, rfl, hdrive, h₄⟩ := Attempt.yields_bind_ok.mp h₃
  obtain ⟨_, t₆, t₇, rfl, harm, h₅⟩ := Attempt.yields_bind_ok.mp h₄
  obtain ⟨slept, t₈, rfl, h₆⟩ := Attempt.yields_ask_bind.mp h₅
  rcases yields_command_bind.mp h₆ with ⟨fault, -, hfail⟩ | ⟨a, t₉, rfl, h₇⟩
  · exact nomatch hfail
  rcases yields_command_bind.mp h₇ with ⟨fault, -, hfail⟩ | ⟨b, t₁₀, rfl, h₈⟩
  · exact nomatch hfail
  rcases yields_command_bind.mp h₈ with ⟨fault, -, hfail⟩ | ⟨c, t₁₁, rfl, h₉⟩
  · exact nomatch hfail
  obtain ⟨noted, t₁₂, rfl, h₁₀⟩ := Attempt.yields_ask_bind.mp h₉
  obtain ⟨rfl, hpad⟩ := Attempt.yields_pure.mp h₁₀
  -- The line and the interrupt did not fail, so nothing was logged for them.
  have hdriven : Silent t₄ := silent_of_orNote_ok (asks_driveLine trivial) hdrive
  have harmed : Silent t₆ := silent_of_orNote_ok (Program.asks_request trivial) harm
  refine ⟨Except.ok.inj hpad, ?_⟩
  have hready : Silent [⟨.busReady, true⟩, ⟨.irqReady, true⟩] := ⟨rfl, rfl, rfl⟩
  have hslept : Silent [⟨.delay startupDelay, slept⟩] := ⟨rfl, rfl, rfl⟩
  have hnoted : Silent [⟨.note (.initialised config.id config.axes), noted⟩] := ⟨rfl, rfl, rfl⟩
  refine hready.logged.append (hdriven.logged.append (harmed.logged.append ?_))
  refine hslept.logged.append ((logged_commandHistory .config1 (.ok a)).append ?_)
  refine (logged_commandHistory .config2 (.ok b)).append ?_
  exact (logged_commandHistory .powerUp (.ok c)).append hnoted.logged

/-! ### Whole runs -/

/-- The accounts of a whole run, from the history of each of its calls. -/
structure Accounted (config : TrackpadConfig) (calls : List (List (Exchange Peripheral)))
    (pad : Trackpad) : Prop where
  /-- The events are complete reports, one for each call that has read a motion, and carry the
  configured tag. -/
  reports : events calls.flatten =
    (calls.filterMap (motion? config.axes)).flatMap (MotionReport.events config.id)
  /-- The position is the sum of all reported motion, modulo 2^16. -/
  x : pad.x = Int16.ofInt ((events calls.flatten).map alongX).sum
  y : pad.y = Int16.ofInt ((events calls.flatten).map alongY).sum
  /-- A run that shows no motion, or fails, sends no other command, reports nothing and moves
  nothing, whenever it comes next. -/
  ended : ∀ {op u reply pad'}, (pad.perform op).Yields u (reply, pad') →
    ∀ before x after, commands u = before ++ x :: after → endsRun x = true →
      after = [] ∧ events u = [] ∧ pad' = pad
  logged : Logged calls.flatten

theorem sum_alongX_events (device : UInt8) (motion : MotionReport) :
    ((motion.events device).map alongX).sum = motion.dx.toInt := by
  simp [MotionReport.events, InputEvent.report, alongX]

theorem sum_alongY_events (device : UInt8) (motion : MotionReport) :
    ((motion.events device).map alongY).sum = motion.dy.toInt := by
  simp [MotionReport.events, InputEvent.report, alongY]

theorem CallAccounted.config_eq (h : CallAccounted pad t pad') : pad'.config = pad.config := by
  rw [h.moves]
  cases motion? pad.config.axes t <;> rfl

/-- A call that ends early leaves the driver as it was. -/
theorem CallAccounted.eq_of_ended (h : CallAccounted pad t pad')
    {before after : List (Command × Except BusFault UInt8)} {x : Command × Except BusFault UInt8}
    (ht : commands t = before ++ x :: after) (hx : endsRun x = true) :
    after = [] ∧ events t = [] ∧ pad' = pad := by
  obtain ⟨hafter, hmotion⟩ := h.ended before x after ht hx
  refine ⟨hafter, ?_, ?_⟩
  · rw [h.reports, hmotion]
    rfl
  · rw [h.moves, hmotion]
    rfl

/-- The position follows the reported motion. -/
theorem CallAccounted.position (h : CallAccounted pad t pad') :
    pad'.x = pad.x + Int16.ofInt ((events t).map alongX).sum ∧
      pad'.y = pad.y + Int16.ofInt ((events t).map alongY).sum := by
  rw [h.reports, h.moves]
  cases motion? pad.config.axes t with
  | none => exact ⟨(Int16.add_zero _).symm, (Int16.add_zero _).symm⟩
  | some motion =>
    simp only [Option.toList_some, List.flatMap_cons, List.flatMap_nil, List.append_nil,
      sum_alongX_events, sum_alongY_events, Int16.ofInt_toInt]
    exact ⟨rfl, rfl⟩

/-- The accounts of the calls add up to the account of the run. -/
theorem Reached.accounted {calls : List (List (Exchange Peripheral))}
    (h : Reached config shutdown calls pad) :
    pad.config = config ∧ Accounted config calls pad := by
  have hended : ∀ {pad : Trackpad} {op u reply pad'}, (pad.perform op).Yields u (reply, pad') →
      ∀ before x after, commands u = before ++ x :: after → endsRun x = true →
        after = [] ∧ events u = [] ∧ pad' = pad :=
    fun hstep _ _ _ hu hx => (performed_of_yields hstep).accounted.eq_of_ended hu hx
  induction h with
  | @bringUp t pad up =>
    obtain ⟨rfl, hlogged⟩ := yields_bringUp_ok up
    have hchores : ∀ e ∈ t, Request.Chore e.request :=
      fun e he => (asks_bringUp config shutdown).of_mem up he
    have hevents : events [t].flatten = [] := by
      rw [List.flatten_singleton, events_eq_nil_of_chores hchores]
    refine ⟨rfl, ?_, ?_, ?_, hended, ?_⟩
    · rw [hevents, List.filterMap_cons_none (motion?_eq_none_of_chores hchores)]
      rfl
    · rw [hevents]
      rfl
    · rw [hevents]
      rfl
    · rwa [List.flatten_singleton]
  | @perform calls u pad pad' op reply run step ih =>
    obtain ⟨rfl, hreports, hx, hy, -, hlogged⟩ := ih
    have hcall := (performed_of_yields step).accounted
    obtain ⟨hx', hy'⟩ := hcall.position
    have hflatten : (calls ++ [u]).flatten = calls.flatten ++ u := by simp
    refine ⟨hcall.config_eq, ?_, ?_, ?_, hended, ?_⟩
    · rw [hflatten, events_append, hreports, hcall.reports]
      cases hmotion : motion? pad.config.axes u <;> simp [List.filterMap_append, hmotion]
    · -- The position wraps, and so does the sum.
      rw [hflatten, events_append, List.map_append, List.sum_append, Int16.ofInt_add, ← hx, hx']
    · rw [hflatten, events_append, List.map_append, List.sum_append, Int16.ofInt_add, ← hy, hy']
    · rw [hflatten]
      exact hlogged.append hcall.logged

end TactilePad.Trackpad
