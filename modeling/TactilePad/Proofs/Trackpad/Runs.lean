import TactilePad.Proofs.Trackpad.Questions

/-!
# Histories of the trackpad driver

What each part of the trackpad driver leaves in the history, for every pattern of answers and
faults:

* `yields_command`: a command that fails is logged, and nothing else is;
* `BringUpFailed`, the ways that a bring-up can fail, and `bringUpFailed_of_yields`;
* `Polled`, the five ways that a worker run can end, and `polled_of_yields`;
* `Performed`, the ways that an operation can end, and `performed_of_yields`;
* `Reached`, the states that a bring-up and any operations after it can come to, with one history
  for each call.
-/

namespace TactilePad.Trackpad

variable {t u : List (Exchange Peripheral)} {pad pad' : Trackpad} {config : TrackpadConfig}
  {shutdown : ControlLine}

/-! ### Single questions -/

theorem yields_note {notice : Notice} {result : Except DriverError Unit} :
    (note notice).run.Yields t result ↔ t = [⟨.note notice, ()⟩] ∧ result = .ok () :=
  Attempt.yields_ask.trans ⟨fun ⟨_, ht, hr⟩ => ⟨ht, hr⟩, fun h => ⟨(), h⟩⟩

/-- What an access leaves in the history when a fault of it is logged. -/
theorem yields_orNote {α : Type} {notice : BusFault → Notice}
    {p : Program Peripheral (Except BusFault α)} {result : Except DriverError α} :
    (orNote notice p).run.Yields t result ↔
      (∃ a, p.Yields t (.ok a) ∧ result = .ok a) ∨
      ∃ fault t', t = t' ++ [⟨.note (notice fault), ()⟩] ∧ p.Yields t' (.error fault) ∧
        result = .error (.bus fault) := by
  constructor
  · intro h
    rcases Attempt.yields_bind.mp h with ⟨error, hp, -⟩ | ⟨x, t₁, t₂, rfl, hp, hrest⟩
    · obtain ⟨x, -, hx⟩ := Attempt.yields_lift.mp hp
      exact nomatch hx
    · obtain ⟨x', hp, hx⟩ := Attempt.yields_lift.mp hp
      obtain rfl := Except.ok.inj hx
      -- A fault is logged before it is thrown.
      cases x with
      | ok a =>
        obtain ⟨rfl, rfl⟩ := Attempt.yields_pure.mp hrest
        exact Or.inl ⟨a, by rwa [List.append_nil], rfl⟩
      | error fault =>
        rcases Attempt.yields_bind.mp hrest with ⟨error, hnote, -⟩ | ⟨_, u₁, u₂, rfl, hnote, hthrow⟩
        · exact nomatch (yields_note.mp hnote).2
        · obtain ⟨rfl, -⟩ := yields_note.mp hnote
          obtain ⟨rfl, rfl⟩ := Attempt.yields_throw.mp hthrow
          exact Or.inr ⟨fault, t₁, by rw [List.append_nil], hp, rfl⟩
  · rintro (⟨a, hp, rfl⟩ | ⟨fault, t', rfl, hp, rfl⟩)
    · refine Attempt.yields_bind.mpr (Or.inr ⟨.ok a, t, [], (List.append_nil t).symm, ?_, rfl, rfl⟩)
      exact Attempt.yields_lift.mpr ⟨_, hp, rfl⟩
    · refine Attempt.yields_bind.mpr (Or.inr ⟨.error fault, t', _, rfl, ?_, ?_⟩)
      · exact Attempt.yields_lift.mpr ⟨_, hp, rfl⟩
      · exact Attempt.yields_bind.mpr (Or.inr ⟨(), _, [], (List.append_nil _).symm,
          yields_note.mpr ⟨rfl, rfl⟩, rfl, rfl⟩)

/-- What a command leaves in the history: a fault is logged. -/
def commandHistory (c : Command) : Except BusFault UInt8 → List (Exchange Peripheral)
  | .ok a => [⟨.command c, .ok a⟩]
  | .error fault => [⟨.command c, .error fault⟩, ⟨.note (.commandFailed c fault), ()⟩]

theorem yields_command {c : Command} {result : Except DriverError UInt8} :
    (command c).run.Yields t result ↔ ∃ x, t = commandHistory c x ∧ result = x.mapError .bus := by
  refine yields_orNote.trans ?_
  constructor
  · rintro (⟨a, ht, rfl⟩ | ⟨fault, t', rfl, ht, rfl⟩)
    · obtain rfl := Program.yields_request.mp ht
      exact ⟨.ok a, rfl, rfl⟩
    · obtain rfl := Program.yields_request.mp ht
      exact ⟨.error fault, rfl, rfl⟩
  · rintro ⟨fault | a, rfl, rfl⟩
    · exact Or.inr ⟨fault, _, rfl, Program.yields_request.mpr rfl, rfl⟩
    · exact Or.inl ⟨a, Program.yields_request.mpr rfl, rfl⟩

/-- A command that leads on has succeeded. -/
theorem yields_command_bind {α : Type} {c : Command} {f : UInt8 → Attempt Peripheral α}
    {result : Except DriverError α} :
    (command c >>= f).run.Yields t result ↔
      (∃ fault, t = commandHistory c (.error fault) ∧ result = .error (.bus fault)) ∨
      ∃ a t', t = commandHistory c (.ok a) ++ t' ∧ (f a).run.Yields t' result := by
  rw [Attempt.yields_bind]
  constructor
  · rintro (⟨error, h, rfl⟩ | ⟨a, t₁, t₂, rfl, h, hrest⟩)
    · obtain ⟨fault | a, rfl, hx⟩ := yields_command.mp h
      · exact Or.inl ⟨fault, rfl, congrArg Except.error (Except.error.inj hx)⟩
      · exact nomatch hx
    · obtain ⟨fault | a', rfl, hx⟩ := yields_command.mp h
      · exact nomatch hx
      · obtain rfl := Except.ok.inj hx
        exact Or.inr ⟨a, t₂, rfl, hrest⟩
  · rintro (⟨fault, rfl, rfl⟩ | ⟨a, t', rfl, hrest⟩)
    · exact Or.inl ⟨_, yields_command.mpr ⟨.error fault, rfl, rfl⟩, rfl⟩
    · exact Or.inr ⟨a, _, t', rfl, yields_command.mpr ⟨.ok a, rfl, rfl⟩, hrest⟩

/-! ### Bring-ups that fail -/

/-- A bring-up that refuses logs why, and asks nothing more. -/
theorem yields_refusal {α : Type} {notice : Notice} {error : DriverError}
    {f : Unit → Attempt Peripheral α} {result : Except DriverError α} :
    (note notice >>= fun _ => throw error >>= f).run.Yields t result ↔
      t = [⟨.note notice, ()⟩] ∧ result = .error error := by
  constructor
  · intro h
    obtain ⟨_, t₁, rfl, hthrow⟩ := Attempt.yields_ask_bind.mp h
    rcases Attempt.yields_bind.mp hthrow with ⟨error', hfail, rfl⟩ | ⟨_, t₂, t₃, -, hfail, -⟩
    · obtain ⟨rfl, he⟩ := Attempt.yields_throw.mp hfail
      exact ⟨rfl, congrArg Except.error (Except.error.inj he)⟩
    · exact nomatch (Attempt.yields_throw.mp hfail).2
  · rintro ⟨rfl, rfl⟩
    refine Attempt.yields_ask_bind.mpr ⟨(), [], rfl, ?_⟩
    exact Attempt.yields_bind.mpr (Or.inl ⟨error, Attempt.yields_throw.mpr ⟨rfl, rfl⟩, rfl⟩)

/-- The ways that a bring-up can fail. -/
inductive BringUpFailed : List (Exchange Peripheral) → Prop
  /-- It was given up before the interrupt was to be armed. -/
  | unarmed {t : List (Exchange Peripheral)} (before : ∀ e ∈ t, Request.Preliminary e.request) :
    BringUpFailed t
  | armRefused {t : List (Exchange Peripheral)} (before : ∀ e ∈ t, Request.Preliminary e.request)
    (fault : BusFault) :
    BringUpFailed (t ++ [⟨.arm, .error fault⟩, ⟨.note (.armFailed fault), ()⟩])
  /-- The interrupt was armed, and a command after that failed. -/
  | commandRefused {t u : List (Exchange Peripheral)}
    (before : ∀ e ∈ t, Request.Preliminary e.request) (c : Command) (fault : BusFault) :
    BringUpFailed (t ++ ([⟨.arm, .ok ()⟩] ++ (u ++ commandHistory c (.error fault))))

/-- Once the interrupt is armed, nothing but a command can fail. -/
theorem yields_armed_error {error : DriverError}
    (h : (do
      delay startupDelay
      let _ ← command .config1
      let _ ← command .config2
      let _ ← command .powerUp
      note (.initialised config.id config.axes)
      return pad : Attempt Peripheral Trackpad).run.Yields t (.error error)) :
    ∃ u c fault, t = u ++ commandHistory c (.error fault) := by
  obtain ⟨slept, t₁, rfl, h₁⟩ := Attempt.yields_ask_bind.mp h
  -- One of the three commands failed; the log record behind them cannot.
  rcases yields_command_bind.mp h₁ with ⟨fault, rfl, -⟩ | ⟨a, t₂, rfl, h₂⟩
  · exact ⟨[⟨.delay startupDelay, slept⟩], .config1, fault, rfl⟩
  rcases yields_command_bind.mp h₂ with ⟨fault, rfl, -⟩ | ⟨b, t₃, rfl, h₃⟩
  · exact ⟨⟨.delay startupDelay, slept⟩ :: commandHistory .config1 (.ok a), .config2, fault, rfl⟩
  rcases yields_command_bind.mp h₃ with ⟨fault, rfl, -⟩ | ⟨c, t₄, rfl, h₄⟩
  · refine ⟨⟨.delay startupDelay, slept⟩ ::
      (commandHistory .config1 (.ok a) ++ commandHistory .config2 (.ok b)), .powerUp, fault, ?_⟩
    rw [List.cons_append, List.append_assoc]
  · obtain ⟨_, t₅, -, h₅⟩ := Attempt.yields_ask_bind.mp h₄
    exact nomatch (Attempt.yields_pure.mp h₅).2

/-- What is asked before the interrupt is armed, and how the bring-up fails from there on. -/
theorem bringUpFailed_of_yields {error : DriverError}
    (h : (bringUp config shutdown).run.Yields t (.error error)) : BringUpFailed t := by
  rcases Attempt.yields_ofExcept_bind.mp h with ⟨error', -, rfl, -⟩ | ⟨_, -, h₁⟩
  · exact .unarmed fun e he => absurd he List.not_mem_nil
  obtain ⟨busReady, t₁, rfl, h₂⟩ := Attempt.yields_ask_bind.mp h₁
  cases busReady with
  | false =>
    obtain ⟨rfl, -⟩ := yields_refusal.mp h₂
    refine .unarmed ?_
    simp [Request.Preliminary]
  | true =>
  obtain ⟨irqReady, t₂, rfl, h₃⟩ := Attempt.yields_ask_bind.mp h₂
  cases irqReady with
  | false =>
    obtain ⟨rfl, -⟩ := yields_refusal.mp h₃
    refine .unarmed ?_
    simp [Request.Preliminary]
  | true =>
  -- Whatever becomes of the shutdown line, the questions so far are preliminary.
  have hdriveAsks : (orNote .shutdownFailed (driveLine shutdown true)).run.Asks
      Request.Preliminary := asks_orNote (asks_driveLine trivial) fun _ => trivial
  have hbefore : ∀ {u : List (Exchange Peripheral)} {x : Except DriverError Bool},
      (orNote .shutdownFailed (driveLine shutdown true)).run.Yields u x →
        ∀ e ∈ [⟨.busReady, true⟩, ⟨.irqReady, true⟩] ++ u, Request.Preliminary e.request := by
    intro u x hu e he
    rcases List.mem_append.mp he with he | he
    · simp only [List.mem_cons, List.not_mem_nil, or_false] at he
      rcases he with rfl | rfl <;> trivial
    · exact hdriveAsks.of_mem hu he
  -- From here on the line, the interrupt and the three commands can fail, in this order.
  rcases Attempt.yields_bind.mp h₃ with ⟨error', hdrive, -⟩ | ⟨_, t₃, t₄, rfl, hdrive, h₄⟩
  · exact .unarmed (hbefore hdrive)
  rcases Attempt.yields_bind.mp h₄ with ⟨error', harm, -⟩ | ⟨_, t₅, t₆, rfl, harm, h₅⟩
  · rcases yields_orNote.mp harm with ⟨_, -, hx⟩ | ⟨fault, t₅, rfl, harm, -⟩
    · exact nomatch hx
    · obtain rfl := Program.yields_request.mp harm
      exact .armRefused (hbefore hdrive) fault
  · rcases yields_orNote.mp harm with ⟨_, harm, -⟩ | ⟨fault, t₇, -, -, hx⟩
    · obtain rfl := Program.yields_request.mp harm
      obtain ⟨u, c, fault, rfl⟩ := yields_armed_error h₅
      exact .commandRefused (hbefore hdrive) c fault
    · exact nomatch hx

/-! ### Worker runs -/

/-- The reported motion that two raw deltas stand for. -/
def motionOf (axes : AxisTransform) (raw : UInt8 × UInt8) : MotionReport :=
  let (dx, dy) := axes.apply (decodeDelta raw.1) (decodeDelta raw.2)
  ⟨dx, dy⟩

/-- The driver after a motion was reported. -/
def moveBy (pad : Trackpad) (motion : MotionReport) : Trackpad :=
  { pad with x := pad.x + motion.dx, y := pad.y + motion.dy }

/-- The events of a reported motion. -/
def MotionReport.events (device : UInt8) (motion : MotionReport) : List InputEvent :=
  InputEvent.report device motion.dx motion.dy

/-- What a worker run that reports a motion leaves in the history after its three commands. -/
def motionHistory (device : UInt8) (motion : MotionReport) : List (Exchange Peripheral) :=
  ⟨.note (.moved motion.dx motion.dy), ()⟩ ::
    (motion.events device).map fun event => ⟨.report event, ()⟩

/-- The ways that a worker run can end. -/
inductive Polled (pad : Trackpad) : List (Exchange Peripheral) →
    Except DriverError (Option MotionReport × Trackpad) → Prop
  | statusFault (fault : BusFault) :
    Polled pad (commandHistory .readMotion (.error fault)) (.error (.bus fault))
  | still {status : UInt8} (still : status &&& motionFlag = 0) :
    Polled pad (commandHistory .readMotion (.ok status) ++ [⟨.note (.noMotion status), ()⟩])
      (.ok (none, pad))
  | deltaXFault {status : UInt8} (moving : status &&& motionFlag ≠ 0) (fault : BusFault) :
    Polled pad
      (commandHistory .readMotion (.ok status) ++ commandHistory .readDeltaX (.error fault))
      (.error (.bus fault))
  | deltaYFault {status : UInt8} (moving : status &&& motionFlag ≠ 0) (rawX : UInt8)
    (fault : BusFault) :
    Polled pad
      (commandHistory .readMotion (.ok status) ++ (commandHistory .readDeltaX (.ok rawX) ++
        commandHistory .readDeltaY (.error fault)))
      (.error (.bus fault))
  | moved {status : UInt8} (moving : status &&& motionFlag ≠ 0) (raw : UInt8 × UInt8) :
    Polled pad
      (commandHistory .readMotion (.ok status) ++ (commandHistory .readDeltaX (.ok raw.1) ++
        (commandHistory .readDeltaY (.ok raw.2) ++
          motionHistory pad.config.id (motionOf pad.config.axes raw))))
      (.ok (some (motionOf pad.config.axes raw), pad.moveBy (motionOf pad.config.axes raw)))

/-- There is no sixth way for a run to end. -/
theorem polled_of_yields {result : Except DriverError (Option MotionReport × Trackpad)}
    (h : pad.pollMotion.run.Yields t result) : Polled pad t result := by
  rcases yields_command_bind.mp h with ⟨fault, rfl, rfl⟩ | ⟨status, t₁, rfl, h₁⟩
  · exact .statusFault fault
  -- Without motion the run ends here.
  by_cases hstatus : status &&& motionFlag = 0
  · rw [if_pos hstatus] at h₁
    obtain ⟨_, t₂, rfl, h₂⟩ := Attempt.yields_ask_bind.mp h₁
    obtain ⟨rfl, rfl⟩ := Attempt.yields_pure.mp h₂
    exact .still hstatus
  rw [if_neg hstatus] at h₁
  rcases yields_command_bind.mp h₁ with ⟨fault, rfl, rfl⟩ | ⟨rawX, t₂, rfl, h₂⟩
  · exact .deltaXFault hstatus fault
  rcases yields_command_bind.mp h₂ with ⟨fault, rfl, rfl⟩ | ⟨rawY, t₃, rfl, h₃⟩
  · exact .deltaYFault hstatus rawX fault
  obtain ⟨_, t₄, rfl, h₄⟩ := Attempt.yields_ask_bind.mp h₃
  obtain ⟨_, t₅, rfl, h₅⟩ := Attempt.yields_ask_bind.mp h₄
  obtain ⟨_, t₆, rfl, h₆⟩ := Attempt.yields_ask_bind.mp h₅
  obtain ⟨_, t₇, rfl, h₇⟩ := Attempt.yields_ask_bind.mp h₆
  obtain ⟨rfl, rfl⟩ := Attempt.yields_pure.mp h₇
  exact .moved hstatus (rawX, rawY)

/-! ### Operations -/

/-- The driver after a worker run: one that fails leaves it as it was. -/
def afterRun (pad : Trackpad) : Except DriverError (Option MotionReport × Trackpad) → Trackpad
  | .ok (_, pad') => pad'
  | .error _ => pad

/-- The questions by which an operation can come to its worker run. -/
inductive Opening : List (Exchange Peripheral) → Prop
  | poll : Opening []
  | claimed : Opening [⟨.claim, true⟩]
  | awaited : Opening [⟨.awaitRun, ()⟩]

/-- What an operation can come to: a worker run, nothing because no run was pending, or a power
operation, which leaves the driver as it is. -/
inductive Performed (pad : Trackpad) : List (Exchange Peripheral) → Trackpad → Prop
  | run {t u : List (Exchange Peripheral)}
    {result : Except DriverError (Option MotionReport × Trackpad)} (opening : Opening t)
    (polled : Polled pad u result) : Performed pad (t ++ u) (pad.afterRun result)
  | idle : Performed pad [⟨.claim, false⟩] pad
  | poweredDown {t : List (Exchange Peripheral)} {result : Except DriverError Unit}
    (yields : pad.powerDown.run.Yields t result) : Performed pad t pad
  | poweredUp {t : List (Exchange Peripheral)} {result : Except DriverError Unit}
    (yields : pad.powerUp.run.Yields t result) : Performed pad t pad

/-- A single run polls once, and leaves the driver as the outcome of the poll has it. -/
theorem yields_runOnce {report? : Option MotionReport}
    (h : pad.runOnce.Yields t (report?, pad')) : ∃ result, Polled pad t result ∧
      pad' = pad.afterRun result := by
  obtain ⟨t₁, t₂, result, rfl, hpoll, hreturn⟩ := Program.yields_bind.mp h
  refine ⟨result, ?_⟩
  rcases result with error | ⟨report?', pad''⟩
  · obtain ⟨rfl, hr⟩ := Program.yields_pure.mp hreturn
    rw [List.append_nil]
    exact ⟨polled_of_yields hpoll, (Prod.mk.inj hr).2.symm⟩
  · obtain ⟨rfl, hr⟩ := Program.yields_pure.mp hreturn
    rw [List.append_nil]
    exact ⟨polled_of_yields hpoll, (Prod.mk.inj hr).2.symm⟩

/-- A run that is made only if one is pending may find none. -/
theorem yields_processPending {report? : Option MotionReport}
    (h : pad.processPending.Yields t (report?, pad')) : Performed pad t pad' := by
  obtain ⟨found, t₁, rfl, hrest⟩ := h
  cases found with
  | true =>
    obtain ⟨result, hpolled, rfl⟩ := yields_runOnce hrest
    exact .run .claimed hpolled
  | false =>
    obtain ⟨rfl, hr⟩ := Program.yields_pure.mp hrest
    obtain rfl := (Prod.mk.inj hr).2
    exact .idle

/-- The report of a run is its reply. -/
theorem yields_running {p : Program Peripheral (Option MotionReport × Trackpad)}
    {reply : Except DriverError Reply} :
    (running p).Yields t (reply, pad') ↔
      ∃ report?, p.Yields t (report?, pad') ∧ reply = .ok (.motion report?) := by
  constructor
  · intro h
    obtain ⟨t₁, t₂, ⟨report?, pad''⟩, rfl, hp, hreturn⟩ := Program.yields_bind.mp h
    obtain ⟨rfl, hr⟩ := Program.yields_pure.mp hreturn
    obtain ⟨rfl, rfl⟩ := Prod.mk.inj hr
    exact ⟨report?, by rwa [List.append_nil], rfl⟩
  · rintro ⟨report?, hp, rfl⟩
    exact Program.yields_bind.mpr ⟨t, [], (report?, pad'), (List.append_nil t).symm, hp, rfl, rfl⟩

/-- A power operation keeps the driver as it is. -/
theorem yields_keeping {p : Attempt Peripheral Unit} {reply : Except DriverError Reply}
    (h : (pad.keeping p).Yields t (reply, pad')) :
    pad' = pad ∧ ∃ result, p.run.Yields t result := by
  obtain ⟨t₁, t₂, result, rfl, hp, hreturn⟩ := Program.yields_bind.mp h
  obtain ⟨rfl, hr⟩ := Program.yields_pure.mp hreturn
  exact ⟨(Prod.mk.inj hr).2.symm, result, by rwa [List.append_nil]⟩

/-- There is no other way for an operation to end. -/
theorem performed_of_yields {op : Operation} {reply : Except DriverError Reply}
    (h : (pad.perform op).Yields t (reply, pad')) : Performed pad t pad' := by
  cases op with
  | poll =>
    obtain ⟨t₁, t₂, result, rfl, hpoll, hreturn⟩ := Program.yields_bind.mp h
    -- Polling asks nothing after the run.
    have hpad : t₂ = [] ∧ pad' = pad.afterRun result := by
      rcases result with error | ⟨report?, pad''⟩
      · obtain ⟨rfl, hr⟩ := Program.yields_pure.mp hreturn
        exact ⟨rfl, (Prod.mk.inj hr).2.symm⟩
      · obtain ⟨rfl, hr⟩ := Program.yields_pure.mp hreturn
        exact ⟨rfl, (Prod.mk.inj hr).2.symm⟩
    obtain ⟨rfl, rfl⟩ := hpad
    rw [List.append_nil]
    exact .run .poll (polled_of_yields hpoll)
  | processPending =>
    obtain ⟨report?, hp, -⟩ := yields_running.mp h
    exact yields_processPending hp
  | service =>
    obtain ⟨report?, ⟨_, t₁, rfl, hrun⟩, -⟩ := yields_running.mp h
    obtain ⟨result, hpolled, rfl⟩ := yields_runOnce hrun
    exact .run .awaited hpolled
  | powerDown =>
    obtain ⟨rfl, result, hp⟩ := yields_keeping h
    exact .poweredDown hp
  | powerUp =>
    obtain ⟨rfl, result, hp⟩ := yields_keeping h
    exact .poweredUp hp

/-! ### Whole runs -/

/-- A run that brought a driver up and has come to the state `pad`, with one history for the
bring-up and one for each operation after it. -/
inductive Reached (config : TrackpadConfig) (shutdown : ControlLine) :
    List (List (Exchange Peripheral)) → Trackpad → Prop
  | bringUp {t : List (Exchange Peripheral)} {pad : Trackpad}
    (up : (Trackpad.bringUp config shutdown).run.Yields t (.ok pad)) :
    Reached config shutdown [t] pad
  | perform {calls : List (List (Exchange Peripheral))} {u : List (Exchange Peripheral)}
    {pad pad' : Trackpad} {op : Operation} {reply : Except DriverError Reply}
    (run : Reached config shutdown calls pad) (step : (pad.perform op).Yields u (reply, pad')) :
    Reached config shutdown (calls ++ [u]) pad'

end TactilePad.Trackpad
