import TactilePad.Proofs.Duties
import TactilePad.Proofs.Trackpad.Questions
import TactilePad.Trackpad.Handoff

/-!
# No motion edge is lost

* `edges_are_read`: wherever motion edges land among the questions, answers and calls of the
  driver's thread, each of them has left a run pending or is followed by a motion read, and every
  run that was begun reads the motion status exactly once.

The pending run is claimed before the motion status is read, and the read is the very next thing
that the thread does (`prompt_perform`), so an edge that finds no run pending is in time for the
next read (`Heeded.step`).
-/

namespace TactilePad.Trackpad

/-! ### A run that was begun has to be read -/

/-- A run begins with a call of `poll`, a claim that finds one or the end of waiting for one, and is
paid for by reading the motion status. -/
def motionRead : Duty Peripheral Operation where
  calls op := op == .poll
  incurs
    | ⟨.claim, found⟩ => found
    | ⟨.awaitRun, _⟩ => true
    | _ => false
  pays := fun (r : Request) => r == .command .readMotion

theorem motionRead_pays_iff {r : Request} :
    motionRead.pays r = true ↔ r = .command .readMotion :=
  beq_iff_eq

theorem Request.Aside.idle {r : Request} (h : r.Aside) : motionRead.Idle r := by
  obtain ⟨hclaim, hawait, hread⟩ := h
  refine ⟨Bool.eq_false_iff.mpr fun h => hread (motionRead_pays_iff.mp h), fun x => ?_⟩
  cases r with
  | claim => exact absurd rfl hclaim
  | awaitRun => exact absurd rfl hawait
  | _ => rfl

/-- Reading the motion status pays at once, and nothing else comes of it. -/
theorem prompt_command_readMotion :
    (command .readMotion).run.Prompt motionRead ∧
      (command .readMotion).run.owes motionRead = true := by
  refine ⟨?_, rfl⟩
  refine Program.prompt_bind (Program.prompt_map _ (Program.prompt_request fun _ => rfl))
    fun x => ?_
  rcases x with error | fault | status
  · exact Program.asks_pure _
  · exact Attempt.asks_bind (asks_note (Request.aside_note _).idle) fun _ => Attempt.asks_throw _
  · exact Attempt.asks_pure status

/-- A run reads the motion status before anything else. -/
theorem prompt_pollMotion (pad : Trackpad) :
    pad.pollMotion.run.Prompt motionRead ∧ pad.pollMotion.run.owes motionRead = true := by
  obtain ⟨rest, hpoll, hrest⟩ := pad.pollMotion_eq_bind
  have hidle : ∀ status, (rest status).run.Asks motionRead.Idle :=
    fun status => (hrest status).mono fun r hr => hr.idle
  rw [hpoll, Attempt.owes_bind hidle]
  exact ⟨Attempt.prompt_bind prompt_command_readMotion.1 hidle, prompt_command_readMotion.2⟩

/-- A single run of the worker begins with that read as well. -/
theorem prompt_runOnce (pad : Trackpad) :
    pad.runOnce.Prompt motionRead ∧ pad.runOnce.owes motionRead = true := by
  obtain ⟨hprompt, howes⟩ := pad.prompt_pollMotion
  constructor
  · refine Program.prompt_bind hprompt fun x => ?_
    cases x <;> exact Program.asks_pure _
  · rw [← howes]
    refine Program.owes_bind fun x => ?_
    cases x <;> exact Program.asks_pure _

/-- Every operation reads the motion status exactly where a run was begun. -/
theorem prompt_perform (pad : Trackpad) (op : Operation) :
    (pad.perform op).Prompt motionRead ∧
      (pad.perform op).owes motionRead = motionRead.calls op := by
  obtain ⟨hrun, hopen⟩ := pad.prompt_runOnce
  -- What is done with a report neither claims nor reads.
  have hrunning : ∀ p : Program Peripheral (Option MotionReport × Trackpad), p.Prompt motionRead →
      (running p).Prompt motionRead ∧ (running p).owes motionRead = p.owes motionRead := by
    intro p hp
    exact ⟨Program.prompt_bind hp fun _ => Program.asks_pure _,
      Program.owes_bind fun _ => Program.asks_pure _⟩
  have hkeeping : ∀ p : Attempt Peripheral Unit, p.run.Asks Request.Chore →
      (pad.keeping p).Prompt motionRead ∧ (pad.keeping p).owes motionRead = false := by
    intro p hp
    have hidle : (pad.keeping p).Asks motionRead.Idle :=
      Program.asks_bind (hp.mono fun r hr => hr.aside.idle) fun _ => Program.asks_pure _
    exact ⟨Program.prompt_of_asks hidle, Program.owes_of_asks hidle⟩
  cases op with
  | poll =>
    obtain ⟨hpoll, hread⟩ := pad.prompt_pollMotion
    constructor
    · refine Program.prompt_bind hpoll fun x => ?_
      cases x <;> exact Program.asks_pure _
    · show pad.polling.owes motionRead = true
      rw [← hread]
      refine Program.owes_bind fun x => ?_
      cases x <;> exact Program.asks_pure _
  | processPending =>
    -- The run is begun by the answer of the claim.
    refine hrunning pad.processPending fun found => ?_
    cases found with
    | false => exact ⟨rfl, trivial⟩
    | true => exact ⟨hopen, hrun⟩
  | service => exact hrunning pad.service fun _ => ⟨hopen, hrun⟩
  | powerDown => exact hkeeping _ pad.asks_powerDown
  | powerUp => exact hkeeping _ pad.asks_powerUp

/-- In every run of the thread, begun runs and motion reads take turns. -/
theorem kept_motionRead {config : TrackpadConfig} {shutdown : ControlLine}
    {t : List (Moment Peripheral Edge Operation)}
    {s : Situation Peripheral Handoff (Option Trackpad)}
    (hrun : handoff.Runs (beginning config shutdown) t s) : motionRead.Kept t s.stage := by
  have hidle : (Except.toOption <$> (bringUp config shutdown).run).Asks motionRead.Idle :=
    Program.asks_map ((asks_bringUp config shutdown).mono fun r hr => hr.aside.idle)
  refine Duty.kept_of_runs (Program.prompt_of_asks hidle) (Program.owes_of_asks hidle) ?_ hrun
  rintro op a h p h' ⟨pad, rfl, rfl, rfl⟩
  obtain ⟨hprompt, howes⟩ := pad.prompt_perform op
  exact ⟨Program.prompt_map _ hprompt, (Program.owes_map _).trans howes⟩

/-! ### What becomes of an edge -/

variable {s s' : Situation Peripheral Handoff (Option Trackpad)}
  {after : List (Moment Peripheral Edge Operation)} {m : Moment Peripheral Edge Operation}

/-- What has become of an edge, given what happened after it: a run is still pending; the motion
status was read; or the run was claimed a moment ago and reading is the next thing to be done. -/
def Heeded (after : List (Moment Peripheral Edge Operation))
    (s : Situation Peripheral Handoff (Option Trackpad)) : Prop :=
  s.shared.work.pending = true ∨ .asked (.command .readMotion) ∈ after ∨
    s.stage.owes motionRead = true

/-- A waiter that looks in vain leaves the pending run alone. -/
theorem pending_look {h : Handoff} (hlook : h.look.1 ≠ .claimed) :
    h.look.2.work.pending = h.work.pending := by
  obtain ⟨work, waiter⟩ := h
  cases waiter with
  | fresh =>
    cases hp : work.pending with
    | true => simp [Handoff.look, Waiter.look, MotionWork.claim, hp] at hlook
    | false => simp [Handoff.look, Waiter.look, MotionWork.claim, hp]
  | suspended =>
    cases hw : work.wake <;> simp [Handoff.look, Waiter.look, MotionWork.listen, hw]

/-- Nothing that happens makes a heeded edge an unheeded one. -/
theorem Heeded.step (h : Heeded after s) (hprompt : s.stage.Prompt motionRead)
    (hstep : handoff.Step s m s') : Heeded (after ++ [m]) s' := by
  -- A motion read that was made stays made.
  have hread : .asked (.command .readMotion) ∈ after → Heeded (after ++ [m]) s' :=
    fun hmem => Or.inr (Or.inl (List.mem_append_left [m] hmem))
  cases hstep with
  | event origin w stage => exact Or.inl (MotionWork.pending_land origin w.work)
  | called hbegin =>
    obtain ⟨pad, -, -, rfl⟩ := hbegin
    rcases h with hpending | hmem | howes
    · exact Or.inl hpending
    · exact hread hmem
    · exact nomatch howes
  | asked w r next =>
    rcases h with hpending | hmem | howes
    · exact Or.inl hpending
    · exact hread hmem
    · obtain rfl := motionRead_pays_iff.mp howes
      exact Or.inr (Or.inl (List.mem_append_right after (List.mem_singleton_self _)))
  | @waited w w' r next hwait =>
    rcases h with hpending | hmem | howes
    · cases r with
      | awaitRun =>
        obtain ⟨hlook, rfl⟩ := hwait
        exact Or.inl ((pending_look hlook).trans hpending)
      | _ => exact absurd hwait id
    · exact hread hmem
    · exact nomatch howes
  | @answered w w' r next x hanswer =>
    obtain ⟨howed, -⟩ := hprompt x
    rcases h with hpending | hmem | howes
    · cases r with
      | claim =>
        obtain ⟨hfound, -⟩ := hanswer
        rw [MotionWork.fst_claim, hpending] at hfound
        exact Or.inr (Or.inr (howed.trans hfound))
      | awaitRun => exact Or.inr (Or.inr howed)
      | _ =>
        obtain rfl : w' = w := hanswer
        exact Or.inl hpending
    · exact hread hmem
    · exact nomatch howes

/-- An edge is heeded at every later point of the run. -/
theorem heeded_of_runs {config : TrackpadConfig} {shutdown : ControlLine}
    {t before after : List (Moment Peripheral Edge Operation)} {origin : Edge}
    (hrun : handoff.Runs (beginning config shutdown) t s)
    (ht : t = before ++ .event origin :: after) : Heeded after s := by
  induction hrun generalizing after with
  | start => exact absurd ht.symm (List.append_ne_nil_of_right_ne_nil _ (List.cons_ne_nil _ _))
  | @step t s s' m run step ih =>
    -- Either the edge is the last moment, or what follows it ends with the last moment.
    rcases List.eq_nil_or_concat after with rfl | ⟨after, m', rfl⟩
    · obtain ⟨-, hm⟩ := List.append_inj' ht rfl
      obtain rfl : m = .event origin := List.head_eq_of_cons_eq hm
      cases step with
      | event origin w stage => exact Or.inl (MotionWork.pending_land origin w.work)
    · rw [List.concat_eq_append, ← List.cons_append, ← List.append_assoc] at ht
      obtain ⟨hbefore, hm⟩ := List.append_inj' ht rfl
      obtain rfl : m = m' := List.head_eq_of_cons_eq hm
      rw [List.concat_eq_append]
      exact (ih hbefore).step (kept_motionRead run).prompt step

/-- What the moments of a run tell of its edges and its worker runs. -/
structure EdgesRead (t : List (Moment Peripheral Edge Operation))
    (s : Situation Peripheral Handoff (Option Trackpad)) : Prop where
  heeded : ∀ before origin after, t = before ++ .event origin :: after → Heeded after s
  /-- Whenever no operation is under way, a run is pending or the motion status was read. -/
  settled : ∀ pad?, s.stage = .ready (.done pad?) →
    ∀ before origin after, t = before ++ .event origin :: after →
      s.shared.work.pending = true ∨ .asked (.command .readMotion) ∈ after
  /-- There were as many motion reads as begun runs, but for the one that comes next. -/
  balanced : t.countP motionRead.incurred = t.countP motionRead.paid +
    (s.stage.owes motionRead).toNat
  /-- From the begin of one run to that of the next, the motion status is read exactly once. -/
  readOnce : ∀ before x between y after, t = before ++ (x :: between ++ y :: after) →
    motionRead.incurred x = true → motionRead.incurred y = true →
      (∀ z ∈ between, motionRead.incurred z = false) → between.countP motionRead.paid = 1
  /-- From one motion read to the next, exactly one run begins. -/
  begunOnce : ∀ before x between y after, t = before ++ (x :: between ++ y :: after) →
    motionRead.paid x = true → motionRead.paid y = true →
      (∀ z ∈ between, motionRead.paid z = false) → between.countP motionRead.incurred = 1

/-- Wherever edges land while a trackpad is brought up and operated on, in the middle of transfers
that succeed or fail and between any two operations: each is heeded, and every run that was begun
reads the motion status exactly once. -/
theorem edges_are_read {config : TrackpadConfig} {shutdown : ControlLine}
    {t : List (Moment Peripheral Edge Operation)}
    (hrun : handoff.Runs (beginning config shutdown) t s) : EdgesRead t s where
  heeded _ _ _ ht := heeded_of_runs hrun ht
  settled pad? hstage before origin after ht := by
    rcases heeded_of_runs hrun ht with hpending | hmem | howes
    · exact Or.inl hpending
    · exact Or.inr hmem
    · rw [hstage] at howes
      exact nomatch howes
  balanced := (kept_motionRead hrun).count_eq
  readOnce _ _ _ _ _ ht hx hy hbetween := (kept_motionRead hrun).paid_once ht hx hy hbetween
  begunOnce _ _ _ _ _ ht hx hy hbetween := (kept_motionRead hrun).incurred_once ht hx hy hbetween

/-- A bring-up during which an edge lands, and a run whose motion read fails while another lands. -/
def edgeDuringFault : List (Moment Peripheral Edge Operation) :=
  [.asked .busReady, .answered ⟨.busReady, true⟩, .asked .irqReady, .answered ⟨.irqReady, true⟩,
    .asked .arm, .answered ⟨.arm, .ok ()⟩, .asked (.delay startupDelay),
    .answered ⟨.delay startupDelay, ()⟩, .asked (.command .config1), .event .interrupt,
    .answered ⟨.command .config1, .ok 0⟩, .asked (.command .config2),
    .answered ⟨.command .config2, .ok 0⟩, .asked (.command .powerUp),
    .answered ⟨.command .powerUp, .ok 0⟩, .asked (.note (.initialised 0 {})),
    .answered ⟨.note (.initialised 0 {}), ()⟩, .called .processPending, .asked .claim,
    .answered ⟨.claim, true⟩, .asked (.command .readMotion), .event .thread,
    .answered ⟨.command .readMotion, .error (.spi .other)⟩,
    .asked (.note (.commandFailed .readMotion (.spi .other))),
    .answered ⟨.note (.commandFailed .readMotion (.spi .other)), ()⟩]

/-- The failed run is over, and the edge that landed during it has left another one pending. -/
theorem runs_edgeDuringFault :
    handoff.Runs (beginning {} .absent) edgeDuringFault
      ⟨⟨⟨true, .signaled, 2, 1⟩, .fresh⟩, .ready (.done (some ⟨{}, .absent, 0, 0⟩))⟩ := by
  refine .cons (.asked _ _ _) (.cons (.answered rfl) ?_)
  refine .cons (.asked _ _ _) (.cons (.answered rfl) ?_)
  refine .cons (.asked _ _ _) (.cons (.answered rfl) ?_)
  refine .cons (.asked _ _ _) (.cons (.answered rfl) ?_)
  refine .cons (.asked _ _ _) (.cons (.event _ _ _) (.cons (.answered rfl) ?_))
  refine .cons (.asked _ _ _) (.cons (.answered rfl) ?_)
  refine .cons (.asked _ _ _) (.cons (.answered rfl) ?_)
  refine .cons (.asked _ _ _) (.cons (.answered rfl) ?_)
  -- The bring-up is over; one edge came during its last command.
  refine .cons (.called ⟨_, rfl, rfl, rfl⟩) ?_
  refine .cons (.asked _ _ _) (.cons (.answered ⟨rfl, rfl⟩) ?_)
  refine .cons (.asked _ _ _) (.cons (.event _ _ _) (.cons (.answered rfl) ?_))
  exact .cons (.asked _ _ _) (.cons (.answered rfl) .start)

theorem edges_are_read_edgeDuringFault :
    EdgesRead edgeDuringFault
      ⟨⟨⟨true, .signaled, 2, 1⟩, .fresh⟩, .ready (.done (some ⟨{}, .absent, 0, 0⟩))⟩ :=
  edges_are_read runs_edgeDuringFault

end TactilePad.Trackpad
