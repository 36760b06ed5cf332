import TactilePad.Proofs.Firmware.Notification
import TactilePad.Proofs.Threads
import TactilePad.Proofs.Trackpad.Runs

/-!
# The handler of a worker that has ended

The worker ends if the trackpad cannot be brought up.  The handler of the motion line is added in
the middle of the bring-up, and nothing ever removes it.

* `handler_left_iff`: a worker that has ended leaves the handler installed exactly if its bring-up
  failed late, by the call that enables the interrupt or by a command of the sensor; the next edge
  then notifies a worker that there is no more, unless an edge before it has done so.
* `ended_under_handler`: that happens.

`Gpio.Armed` says how the arming of the interrupt can go, `Trackpad.BringUpFailed` how a bring-up
can fail, and `Program.Laid` puts the one into the other.
-/

namespace TactilePad.Firmware

/-! ### Arming -/

namespace Gpio

variable {α : Type} {gpio : Nat} {u : List (Exchange Controller)}

/-- A call that leads on has answered an accepted code, and any other code is logged. -/
theorem yields_call_bind {c : Call} {accepted : List Int}
    {f : Unit → ExceptT BusFault (Program Controller) α} {result : Except BusFault α}
    (h : (call c accepted >>= f).run.Yields u result) :
    ∃ code : Int,
      (code ∈ accepted ∧ ∃ v, u = ⟨.call c, code⟩ :: v ∧ (f ()).run.Yields v result) ∨
      (code ∉ accepted ∧ u = [⟨.call c, code⟩, ⟨.note (.gpioCallFailed code), ()⟩] ∧
        result = .error (.gpio .other)) := by
  obtain ⟨(code : Int), v, rfl, hrest⟩ := h
  have hrest : ((if code ∈ accepted then pure () else do
      let () ← ExceptT.lift (Program.request (I := Controller) (.note (.gpioCallFailed code)))
      throw (.gpio .other)) >>= f).run.Yields v result := hrest
  by_cases hcode : code ∈ accepted
  · rw [if_pos hcode, pure_bind] at hrest
    exact ⟨code, Or.inl ⟨hcode, v, rfl, hrest⟩⟩
  · rw [if_neg hcode] at hrest
    obtain ⟨_, v', rfl, rfl, rfl⟩ := hrest
    exact ⟨code, Or.inr ⟨hcode, rfl, rfl⟩⟩

/-- The exchange neither adds the handler nor enables the interrupt. -/
def Apart : Exchange Controller → Prop
  | ⟨.call (.addHandler _), code⟩ => code ≠ success
  | ⟨.call (.enableInterrupt _), _⟩ => False
  | _ => True

/-- The ways that arming can go. -/
inductive Armed (gpio : Nat) : List (Exchange Controller) → Except BusFault Unit → Prop
  /-- It failed before the handler was added. -/
  | handlerless {u : List (Exchange Controller)} (apart : ∀ e ∈ u, Apart e) :
    Armed gpio u (.error (.gpio .other))
  | enableRefused {u : List (Exchange Controller)} (apart : ∀ e ∈ u, Apart e) {code : Int}
    (refused : code ≠ success) :
    Armed gpio (u ++ [⟨.call (.addHandler gpio), success⟩, ⟨.call (.enableInterrupt gpio), code⟩,
      ⟨.note (.gpioCallFailed code), ()⟩]) (.error (.gpio .other))
  | armed {u : List (Exchange Controller)} (apart : ∀ e ∈ u, Apart e) :
    Armed gpio (u ++ [⟨.call (.addHandler gpio), success⟩,
      ⟨.call (.enableInterrupt gpio), success⟩, ⟨.note (.motionArmed gpio), ()⟩]) (.ok ())

/-- There is no other way for an arming to go. -/
theorem armed_of_yields {result : Except BusFault Unit} (h : (arm gpio).run.Yields u result) :
    Armed gpio u result := by
  have hapart : ∀ {v : List (Exchange Controller)} {code code' : Int},
      (∀ e ∈ v, Apart e) → ∀ e ∈ ([⟨.call (.configure (motionSetup gpio)), code⟩,
        ⟨.call (.installService 0), code'⟩] ++ v : List (Exchange Controller)), Apart e := by
    intro v code code' hv
    refine List.forall_mem_cons.mpr ⟨trivial, List.forall_mem_cons.mpr ⟨trivial, hv⟩⟩
  -- The calls one after another: each is accepted, or it is the last one and its code is logged.
  obtain ⟨configured, ⟨-, u₁, rfl, h₁⟩ | ⟨-, rfl, rfl⟩⟩ := yields_call_bind h
  · obtain ⟨served, ⟨-, u₂, rfl, h₂⟩ | ⟨-, rfl, rfl⟩⟩ := yields_call_bind h₁
    · obtain ⟨added, ⟨hadded, u₃, rfl, h₃⟩ | ⟨hadded, rfl, rfl⟩⟩ := yields_call_bind h₂
      · obtain rfl := List.mem_singleton.mp hadded
        obtain ⟨enabled, ⟨henabled, u₄, rfl, h₄⟩ | ⟨henabled, rfl, rfl⟩⟩ := yields_call_bind h₃
        · obtain rfl := List.mem_singleton.mp henabled
          obtain ⟨_, u₅, rfl, rfl, rfl⟩ := h₄
          exact .armed (hapart (v := []) nofun)
        · exact .enableRefused (hapart (v := []) nofun) fun hcode =>
            henabled (List.mem_singleton.mpr hcode)
      · have hrefused : added ≠ success := fun hcode => hadded (List.mem_singleton.mpr hcode)
        exact .handlerless (hapart
          (List.forall_mem_cons.mpr ⟨hrefused, List.forall_mem_singleton.mpr trivial⟩))
    · exact .handlerless (hapart (List.forall_mem_singleton.mpr trivial))
  · exact .handlerless
      (List.forall_mem_cons.mpr ⟨trivial, List.forall_mem_singleton.mpr trivial⟩)

/-- Whether a call that was answered so makes an arming fail that has added the handler. -/
def Call.failsLate : Call → Int → Bool
  | .enableInterrupt _, code => code != success
  | .configure _, _ | .installService _, _ | .addHandler _, _ => false

/-- A call that is apart neither installs the handler nor fails behind it. -/
theorem installs_of_apart {c : Call} {code : Int} (h : Apart ⟨.call c, code⟩) :
    c.installs code = c.failsLate code := by
  cases c with
  | addHandler gpio => exact beq_false_of_ne h
  | enableInterrupt gpio => exact absurd h id
  | _ => rfl

end Gpio

namespace Worker

/-- Whether the answer has installed the handler. -/
def installs : Exchange Surroundings → Bool
  | ⟨.pins (.call c), code⟩ => c.installs code
  | _ => false

/-- Whether the answer makes a bring-up fail that has added the handler: the interrupt is not
enabled, or the sensor does not take a command. -/
def failsLate : Exchange Surroundings → Bool
  | ⟨.pins (.call c), code⟩ => c.failsLate code
  | ⟨.driver (.command _), .error _⟩ => true
  | _ => false

variable {config : TrackpadConfig} {u v : List (Exchange Surroundings)}

/-- The handler has been installed exactly if the bring-up has then failed. -/
def Matched (u : List (Exchange Surroundings)) : Prop :=
  u.any installs = u.any failsLate

theorem Matched.append (hu : Matched u) (hv : Matched v) : Matched (u ++ v) := by
  rw [Matched, List.any_append, List.any_append, hu, hv]

/-! ### The driver laid over the pin controller -/

/-- A question to the pin controller, among those of the worker. -/
def onPins (e : Exchange Gpio.Controller) : Exchange Surroundings :=
  ⟨.pins e.request, e.answer⟩

/-- What the driver asks of the pin controller, the worker asks of it as well. -/
theorem eq_map_onPins_of_laid {t : List (Exchange Gpio.Controller)}
    (h : Program.Laid (fun r => Program.request (I := Surroundings) (.pins r)) t u) :
    u = t.map onPins := by
  induction h with
  | nil => rfl
  | cons answered rest ih =>
    obtain rfl := Program.yields_request.mp answered
    rw [ih]
    rfl

/-- Calls that are apart match. -/
theorem matched_onPins {t : List (Exchange Gpio.Controller)} (h : ∀ e ∈ t, Gpio.Apart e) :
    Matched (t.map onPins) := by
  induction t with
  | nil => rfl
  | cons e t ih =>
    have hrest : Matched (t.map onPins) := ih fun e' he' => h e' (List.mem_cons_of_mem e he')
    have hapart : Gpio.Apart e := h e List.mem_cons_self
    have he : Matched [onPins e] := by
      obtain ⟨r, x⟩ := e
      cases r with
      | note notice => rfl
      | call c =>
        have hcode : c.installs x = c.failsLate x := Gpio.installs_of_apart hapart
        simpa [Matched, onPins, installs, failsLate] using hcode
    exact he.append hrest

/-- An arming that fails has added the handler only if the interrupt could not be enabled. -/
theorem matched_of_arm_error {fault : BusFault}
    (h : (answer .arm).Yields u (.error fault)) : Matched u := by
  obtain ⟨t, harm, hlaid⟩ := Program.laid_of_yields_lower h
  obtain rfl := eq_map_onPins_of_laid hlaid
  cases Gpio.armed_of_yields harm with
  | handlerless apart => exact matched_onPins apart
  | enableRefused apart refused =>
    rw [List.map_append]
    refine (matched_onPins apart).append ?_
    simp [Matched, onPins, installs, failsLate, Gpio.Call.installs, Gpio.Call.failsLate, refused]

/-- An arming that succeeds has added the handler. -/
theorem installs_of_arm_ok (h : (answer .arm).Yields u (.ok ())) : u.any installs = true := by
  obtain ⟨t, harm, hlaid⟩ := Program.laid_of_yields_lower h
  obtain rfl := eq_map_onPins_of_laid hlaid
  cases Gpio.armed_of_yields harm with
  | armed apart =>
    rw [List.map_append, List.any_append]
    exact Bool.or_true _

/-- What the driver asks before the interrupt is armed does not concern the handler. -/
theorem matched_of_preliminary {t : List (Exchange Trackpad.Peripheral)}
    (ht : ∀ e ∈ t, Trackpad.Request.Preliminary e.request) (h : Program.Laid answer t u) :
    Matched u := by
  induction h with
  | nil => rfl
  | @cons r x t u v answered rest ih =>
    have hrest : Matched v := ih fun e he => ht e (List.mem_cons_of_mem _ he)
    have hr : Trackpad.Request.Preliminary r := ht ⟨r, x⟩ List.mem_cons_self
    refine Matched.append ?_ hrest
    cases r with
    | arm => exact absurd hr id
    | command c => exact absurd hr id
    | _ =>
      obtain rfl := Program.yields_request.mp answered
      rfl

/-- A command that fails after the arming makes the bring-up fail late. -/
theorem failsLate_of_commandHistory {c : Trackpad.Command} {fault : BusFault}
    (h : Program.Laid answer (Trackpad.commandHistory c (.error fault)) u) :
    u.any failsLate = true := by
  cases h with
  | cons answered rest =>
    obtain rfl := Program.yields_request.mp answered
    rfl

/-- However a bring-up fails, it has left the handler installed exactly if it failed late. -/
theorem matched_of_bringUpFailed {t : List (Exchange Trackpad.Peripheral)}
    (h : Trackpad.BringUpFailed t) (hlaid : Program.Laid answer t u) : Matched u := by
  cases h with
  | unarmed before => exact matched_of_preliminary before hlaid
  | armRefused before fault =>
    obtain ⟨v, w, rfl, hv, hw⟩ := hlaid.of_append
    have hbefore : Matched v := matched_of_preliminary before hv
    cases hw with
    | cons answered rest =>
      have hnote := matched_of_preliminary (t := [⟨.note (.armFailed fault), ()⟩])
        (List.forall_mem_singleton.mpr trivial) rest
      exact hbefore.append ((matched_of_arm_error answered).append hnote)
  | commandRefused before c fault =>
    obtain ⟨v, w, rfl, hv, hw⟩ := hlaid.of_append
    obtain ⟨w₁, w₂, rfl, harm, hw₂⟩ := hw.of_append
    obtain ⟨w₃, w₄, rfl, -, hcommand⟩ := hw₂.of_append
    have hbefore : Matched v := matched_of_preliminary before hv
    -- The handler was added, and the command that failed is what failed late.
    have hinstalls : w₁.any installs = true := by
      cases harm with
      | cons answered rest =>
        rw [List.any_append, installs_of_arm_ok answered, Bool.true_or]
    have hlate : w₄.any failsLate = true := failsLate_of_commandHistory hcommand
    refine hbefore.append ?_
    simp [Matched, hinstalls, hlate]

/-- A bring-up that comes to nothing has added the handler exactly if it failed late. -/
theorem matched_of_yields_bringUp (h : (bringUp config).Yields u none) : Matched u := by
  obtain ⟨result, hup, hnone⟩ := Program.yields_map.mp h
  obtain ⟨t, hyields, hlaid⟩ := Program.laid_of_yields_lower hup
  cases result with
  | ok pad => exact nomatch hnone
  | error error => exact matched_of_bringUpFailed (Trackpad.bringUpFailed_of_yields hyields) hlaid

/-! ### The handler in every run of the worker -/

variable {t : List (Moment Surroundings Unit Unit)}
  {s : Situation Surroundings MotionInterrupt (Option Trackpad)}

theorem installed_edge (m : MotionInterrupt) : m.edge.2.installed = m.installed := by
  unfold MotionInterrupt.edge MotionWork.submitFromInterrupt
  cases hi : m.installed <;> cases hp : m.work.pending <;> simp [hi]

/-- Only a call of the pin controller installs the handler. -/
theorem installs_of_not_call {x : Exchange Surroundings}
    (h : ∀ c code, x ≠ ⟨.pins (.call c), code⟩) : installs x = false := by
  obtain ⟨r, x⟩ := x
  cases r with
  | driver r => rfl
  | pins r =>
    cases r with
    | call c => exact absurd rfl (h c x)
    | note notice => rfl

/-- An answer installs the handler or leaves it as it was. -/
theorem installed_of_answers {m m' : MotionInterrupt} {x : Exchange Surroundings}
    (h : Answers x m m') : m'.installed = (m.installed || installs x) := by
  rcases answers_cases h with ⟨found, rfl, -, rfl⟩ | ⟨c, code, rfl, rfl⟩ | ⟨-, hcall, rfl⟩
  · exact (Bool.or_false _).symm
  · rfl
  · rw [installs_of_not_call hcall, Bool.or_false]

/-- The handler is installed from the answer on that installs it. -/
theorem installed_of_runs (hrun : worker.Runs (workerStart config) t s) :
    s.shared.installed = (exchanges t).any installs := by
  induction hrun with
  | start => rfl
  | @step t s s' m run step ih =>
    rw [exchanges_concat, List.any_append, ← ih]
    cases step with
    | event e w stage => exact (installed_edge w).trans (Bool.or_false _).symm
    | called hwake =>
      obtain ⟨-, rfl, -⟩ := hwake
      exact (Bool.or_false _).symm
    | asked w r next => exact (Bool.or_false _).symm
    | waited hwait => exact absurd hwait id
    | answered hanswer =>
      refine (installed_of_answers hanswer).trans ?_
      simp [Moment.exchange?]

/-- A worker that has ended has never been woken, and all that it asked was its bring-up. -/
theorem yields_bringUp_of_ended (hrun : worker.Runs (workerStart config) t s)
    (hstage : s.stage = .ready (.done none)) : (bringUp config).Yields (exchanges t) none := by
  obtain ⟨front, last, p, hcalls, hcurrent, hlast⟩ := Scene.ended_of_runs hrun hstage
  cases hcurrent with
  | first =>
    rw [← flatten_historiesOf, hcalls]
    simpa using hlast
  | called before ended begins =>
    obtain ⟨-, -, pad, -, rfl⟩ := begins
    obtain ⟨result, -, hnone⟩ := Program.yields_map.mp hlast
    exact nomatch hnone

/-- The next edge notifies the worker if there is a handler and no run is pending. -/
theorem notified_edge_iff (m : MotionInterrupt) :
    m.edge.1 = .notified ↔ m.installed = true ∧ m.work.pending = false := by
  unfold MotionInterrupt.edge MotionWork.submitFromInterrupt
  cases hi : m.installed <;> cases hp : m.work.pending <;> simp

/-- A worker that has ended leaves the handler installed exactly if its bring-up failed late.  The
next edge then notifies it, unless a notification is outstanding that it will never take down. -/
theorem handler_left_iff (hrun : worker.Runs (workerStart config) t s)
    (hstage : s.stage = .ready (.done none)) :
    (s.shared.installed = true ↔ ∃ x, .answered x ∈ t ∧ failsLate x = true) ∧
      (s.shared.edge.1 = .notified ↔ s.shared.installed = true ∧ s.shared.notified = false) := by
  have hmatched : Matched (exchanges t) :=
    matched_of_yields_bringUp (yields_bringUp_of_ended hrun hstage)
  -- An ended worker claims nothing, so both flags are up or both are down.
  have hinStep : s.shared.notified = s.shared.work.pending := by
    refine (alert_of_runs hrun).inStep ?_
    rw [hstage]
    rfl
  constructor
  · calc s.shared.installed = true
        ↔ (exchanges t).any failsLate = true := by rw [installed_of_runs hrun, hmatched]
      _ ↔ ∃ x, x ∈ exchanges t ∧ failsLate x = true := List.any_eq_true
      _ ↔ ∃ x, .answered x ∈ t ∧ failsLate x = true :=
          exists_congr fun x => and_congr_left' mem_exchanges
  · rw [notified_edge_iff, hinStep]

/-- The interrupt is armed, and the sensor does not take the first command after that. -/
def refusedCommand : List (Moment Surroundings Unit Unit) :=
  [.asked (.driver .busReady), .answered ⟨.driver .busReady, true⟩,
    .asked (.driver .irqReady), .answered ⟨.driver .irqReady, true⟩,
    .asked (.driver (.drive true)), .answered ⟨.driver (.drive true), .ok ()⟩,
    .asked (.pins (.call (.configure (Gpio.motionSetup Pins.motion)))),
    .answered ⟨.pins (.call (.configure (Gpio.motionSetup Pins.motion))), (0 : Int)⟩,
    .asked (.pins (.call (.installService 0))),
    .answered ⟨.pins (.call (.installService 0)), (0 : Int)⟩,
    .asked (.pins (.call (.addHandler Pins.motion))),
    .answered ⟨.pins (.call (.addHandler Pins.motion)), (0 : Int)⟩,
    .asked (.pins (.call (.enableInterrupt Pins.motion))),
    .answered ⟨.pins (.call (.enableInterrupt Pins.motion)), (0 : Int)⟩,
    .asked (.pins (.note (.motionArmed Pins.motion))),
    .answered ⟨.pins (.note (.motionArmed Pins.motion)), ()⟩,
    .asked (.driver (.delay Trackpad.startupDelay)),
    .answered ⟨.driver (.delay Trackpad.startupDelay), ()⟩,
    .asked (.driver (.command .config1)),
    .answered ⟨.driver (.command .config1), .error (.spi .overrun)⟩,
    .asked (.driver (.note (.commandFailed .config1 (.spi .overrun)))),
    .answered ⟨.driver (.note (.commandFailed .config1 (.spi .overrun))), ()⟩]

theorem runs_refusedCommand :
    worker.Runs (workerStart {}) refusedCommand ⟨⟨true, {}, false⟩, .ready (.done none)⟩ := by
  refine .cons (.asked _ _ _) (.cons (.answered rfl) ?_)
  refine .cons (.asked _ _ _) (.cons (.answered rfl) ?_)
  refine .cons (.asked _ _ _) (.cons (.answered rfl) ?_)
  refine .cons (.asked _ _ _) (.cons (.answered rfl) ?_)
  refine .cons (.asked _ _ _) (.cons (.answered rfl) ?_)
  refine .cons (.asked _ _ _) (.cons (.answered rfl) ?_)
  refine .cons (.asked _ _ _) (.cons (.answered rfl) ?_)
  refine .cons (.asked _ _ _) (.cons (.answered rfl) ?_)
  refine .cons (.asked _ _ _) (.cons (.answered rfl) ?_)
  refine .cons (.asked _ _ _) (.cons (.answered rfl) ?_)
  exact .cons (.asked _ _ _) (.cons (.answered rfl) .start)

theorem handler_left_iff_refusedCommand :
    (∃ x, .answered x ∈ refusedCommand ∧ failsLate x = true) ∧
      (⟨true, {}, false⟩ : MotionInterrupt).edge.1 = .notified := by
  obtain ⟨hleft, hedge⟩ := handler_left_iff runs_refusedCommand rfl
  exact ⟨hleft.mp rfl, hedge.mpr ⟨rfl, rfl⟩⟩

/-- The worker has ended, and the handler is installed: the next edge notifies it. -/
theorem ended_under_handler :
    ∃ s, worker.Runs (workerStart {}) refusedCommand s ∧ s.stage = .ready (.done none) ∧
      s.shared.installed = true ∧ s.shared.edge.1 = .notified :=
  ⟨_, runs_refusedCommand, rfl, rfl, rfl⟩

end Worker

end TactilePad.Firmware
