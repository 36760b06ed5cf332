import TactilePad.Firmware.Worker
import TactilePad.Proofs.Duties
import TactilePad.Proofs.Trackpad.Questions

/-!
# No wake-up of the worker is lost

* `wakes_match_runs`: wherever edges land while the worker brings the trackpad up, runs or waits, a
  notification is outstanding at its wait exactly if a run is pending, and every time that it is
  woken it claims exactly one run.

The handler changes both flags at once, and only if no run was pending (`edge_cases`).  Between
being woken and the claim the run is still pending, so an edge does not notify again; with the claim
both flags are down (`Alert.step`).
-/

namespace TactilePad.Firmware

/-- An edge changes neither flag, or it raises both. -/
theorem MotionInterrupt.edge_cases (m : MotionInterrupt) :
    m.edge.2.notified = m.notified ∧ m.edge.2.work.pending = m.work.pending ∨
      m.work.pending = false ∧ m.edge.2.notified = true ∧ m.edge.2.work.pending = true := by
  unfold edge MotionWork.submitFromInterrupt
  cases hi : m.installed <;> cases hp : m.work.pending <;> simp [hp]

namespace Worker

/-! ### Being woken owes a claim -/

/-- The worker has to claim a run each time that it was woken. -/
def claimOwed : Duty Surroundings Unit where
  calls _ := true
  incurs _ := false
  pays := fun (r : Request) => r == .driver .claim

theorem claimOwed_pays_iff {r : Request} : claimOwed.pays r = true ↔ r = .driver .claim :=
  beq_iff_eq

theorem idle_of_ne {r : Request} (h : r ≠ .driver .claim) : claimOwed.Idle r :=
  ⟨Bool.eq_false_iff.mpr fun hp => h (claimOwed_pays_iff.mp hp), fun _ => rfl⟩

/-- A program of the driver that claims no run asks for no claim on the worker either. -/
theorem idle_lower {α : Type} {p : Program Trackpad.Peripheral α}
    (hp : p.Asks Trackpad.Request.Claimless) : (p.lower answer).Asks claimOwed.Idle := by
  have hpins : ∀ r : Gpio.Request,
      (Program.request (I := Surroundings) (.pins r)).Asks claimOwed.Idle :=
    fun r => Program.asks_request (idle_of_ne nofun)
  refine Program.asks_lower hp fun r hr => ?_
  cases r with
  | claim => exact absurd rfl hr.1
  | arm => exact Program.asks_lower (Program.asks_true _) fun r _ => hpins r
  | _ => exact Program.asks_request (idle_of_ne nofun)

/-- Once woken, the worker claims before it does anything else, and claims once. -/
theorem prompt_serve (pad : Trackpad) :
    (serve pad).Prompt claimOwed ∧ (serve pad).owes claimOwed = true := by
  -- The claim comes first, and what follows on its answer claims nothing.
  have hrest : ∀ found : Bool, ((if found then pad.runOnce else pure (none, pad) :
      Program Trackpad.Peripheral _).lower answer).Asks claimOwed.Idle := by
    intro found
    cases found with
    | false => exact Program.asks_pure _
    | true => exact idle_lower pad.asks_runOnce
  have hprompt : (pad.processPending.lower answer).Prompt claimOwed :=
    fun found => ⟨Program.owes_of_asks (hrest found), Program.prompt_of_asks (hrest found)⟩
  exact ⟨Program.prompt_map _ hprompt, rfl⟩

variable {config : TrackpadConfig} {t : List (Moment Surroundings Unit Unit)}
  {s s' : Situation Surroundings MotionInterrupt (Option Trackpad)}
  {m : Moment Surroundings Unit Unit}

/-- A bring-up claims nothing. -/
theorem idle_bringUp (config : TrackpadConfig) : (bringUp config).Asks claimOwed.Idle :=
  Program.asks_map
    (idle_lower ((Trackpad.asks_bringUp config .wired).mono fun _ hr => hr.aside.claimless))

/-- In every run of the worker, being woken and claiming take turns. -/
theorem kept_claimOwed (hrun : worker.Runs (workerStart config) t s) :
    claimOwed.Kept t s.stage := by
  have hidle := idle_bringUp config
  refine Duty.kept_of_runs (Program.prompt_of_asks hidle) (Program.owes_of_asks hidle) ?_ hrun
  rintro _ a m p m' ⟨-, -, pad, -, rfl⟩
  exact prompt_serve pad

/-! ### Notifications and pending runs -/

/-- Whether the worker was woken and has not yet claimed its run. -/
def isClaiming : Stage Surroundings (Option Trackpad) → Bool
  | .ready p => p.owes claimOwed
  | .asking r _ => claimOwed.pays r

def isWakeUp : Moment Surroundings Unit Unit → Bool
  | .called _ => true
  | .event _ | .asked _ | .waited | .answered _ => false

/-- Whether a claim has found a run. -/
def isClaim : Moment Surroundings Unit Unit → Bool
  | .answered ⟨.driver .claim, found⟩ => found
  | _ => false

theorem isClaim_of_isWakeUp (m : Moment Surroundings Unit Unit) (h : isWakeUp m = true) :
    isClaim m = false := by
  cases m with
  | answered x => exact nomatch h
  | _ => rfl

/-- How the flags stand: between being woken and the claim only the run is still pending, and at all
other times both flags are up or both are down. -/
structure Alert (t : List (Moment Surroundings Unit Unit))
    (s : Situation Surroundings MotionInterrupt (Option Trackpad)) : Prop where
  claiming : isClaiming s.stage = true → s.shared.work.pending = true ∧ s.shared.notified = false
  inStep : isClaiming s.stage = false → s.shared.notified = s.shared.work.pending
  found : ∀ found : Bool, .answered ⟨.driver .claim, found⟩ ∈ t → found = true
  turns : Alternates isWakeUp isClaim false t (isClaiming s.stage)

/-- A worker that starts is alert: nothing has been notified and nothing is pending. -/
theorem alert_start (config : TrackpadConfig) : Alert [] (workerStart config) := by
  have hidle : isClaiming (workerStart config).stage = false :=
    Program.owes_of_asks (idle_bringUp config)
  refine ⟨fun h => ?_, fun _ => rfl, fun _ h => absurd h List.not_mem_nil, ?_⟩
  · exact nomatch h.symm.trans hidle
  · rw [hidle]
    exact alternates_nil

/-- An alert worker stays alert with one more moment if flags, claim and turn are right after it. -/
theorem Alert.concat (h : Alert t s)
    (hclaiming : isClaiming s'.stage = true →
      s'.shared.work.pending = true ∧ s'.shared.notified = false)
    (hinStep : isClaiming s'.stage = false → s'.shared.notified = s'.shared.work.pending)
    (hfound : ∀ found : Bool, m = .answered ⟨.driver .claim, found⟩ → found = true)
    (hturn : Alternates isWakeUp isClaim (isClaiming s.stage) [m] (isClaiming s'.stage)) :
    Alert (t ++ [m]) s' := by
  refine ⟨hclaiming, hinStep, fun found hmem => ?_, h.turns.append hturn⟩
  rcases List.mem_append.mp hmem with hmem | hmem
  · exact h.found found hmem
  · exact hfound found (List.mem_singleton.mp hmem).symm

/-- What an answer does to what the interrupt shares: a claim takes the pending run, a call of the
pin controller may install the handler, and nothing else touches it. -/
theorem answers_cases {w w' : MotionInterrupt} {e : Exchange Surroundings} (h : Answers e w w') :
    (∃ found, e = ⟨.driver .claim, found⟩ ∧ found = w.claim.1 ∧ w' = w.claim.2) ∨
    (∃ (c : Gpio.Call) (code : Int), e = ⟨.pins (.call c), code⟩ ∧
      w' = { w with installed := w.installed || c.installs code }) ∨
    ((∀ found, e ≠ ⟨.driver .claim, found⟩) ∧ (∀ c code, e ≠ ⟨.pins (.call c), code⟩) ∧
      w' = w) := by
  obtain ⟨r, x⟩ := e
  cases r with
  | driver r =>
    cases r with
    | claim => exact Or.inl ⟨x, rfl, h⟩
    | _ => exact Or.inr (Or.inr ⟨nofun, nofun, h⟩)
  | pins r =>
    cases r with
    | call c => exact Or.inr (Or.inl ⟨c, x, rfl, h⟩)
    | note notice => exact Or.inr (Or.inr ⟨nofun, nofun, h⟩)

/-- No answer but that of a claim changes a flag. -/
theorem flags_of_answers {w w' : MotionInterrupt} {r : Request} {x : Surroundings.Answer r}
    (hr : r ≠ .driver .claim) (h : Answers ⟨r, x⟩ w w') :
    w'.notified = w.notified ∧ w'.work = w.work := by
  rcases answers_cases h with ⟨found, he, -, -⟩ | ⟨c, code, -, rfl⟩ | ⟨-, -, rfl⟩
  · exact absurd (congrArg Exchange.request he) hr
  · exact ⟨rfl, rfl⟩
  · exact ⟨rfl, rfl⟩

/-- The answer to another question is not a claim that has found a run. -/
theorem isClaim_answered_of_ne {r : Request} {x : Surroundings.Answer r} (hr : r ≠ .driver .claim) :
    isClaim (.answered ⟨r, x⟩) = false := by
  cases r with
  | driver r =>
    cases r with
    | claim => exact absurd rfl hr
    | _ => rfl
  | pins r => rfl

/-- A claim takes the run that the worker was woken for, and both flags are down after it. -/
theorem Alert.claimed {w w' : MotionInterrupt} {found : Bool}
    {next : Bool → Program Surroundings (Option Trackpad)}
    (h : Alert t ⟨w, .asking (.driver .claim) next⟩) (hdone : (next found).owes claimOwed = false)
    (hanswer : Answers ⟨.driver .claim, found⟩ w w') :
    Alert (t ++ [.answered ⟨.driver .claim, found⟩]) ⟨w', .ready (next found)⟩ := by
  have hstage : isClaiming (.ready (next found)) = false := hdone
  obtain ⟨hpending, hnotified⟩ := h.claiming rfl
  obtain ⟨hclaim, rfl⟩ := hanswer
  have hfound : found = true := hclaim.trans ((MotionWork.fst_claim w.work).trans hpending)
  refine h.concat (fun hclaiming => nomatch hclaiming.symm.trans hstage) (fun _ => ?_) ?_ ?_
  · exact hnotified.trans (MotionWork.pending_claim w.work).symm
  · intro found' hm
    cases hm
    exact hfound
  · rw [hstage]
    exact alternates_closing rfl hfound

/-- The answer to any other question leaves the flags as they are. -/
theorem Alert.answered {w w' : MotionInterrupt} {r : Request} {x : Surroundings.Answer r}
    {next : Surroundings.Answer r → Program Surroundings (Option Trackpad)}
    (h : Alert t ⟨w, .asking r next⟩) (hr : r ≠ .driver .claim)
    (hdone : (next x).owes claimOwed = false) (hanswer : Answers ⟨r, x⟩ w w') :
    Alert (t ++ [.answered ⟨r, x⟩]) ⟨w', .ready (next x)⟩ := by
  have hbefore : isClaiming (.asking r next) = false :=
    Bool.eq_false_iff.mpr fun hpays => hr (claimOwed_pays_iff.mp hpays)
  have hafter : isClaiming (.ready (next x)) = false := hdone
  obtain ⟨hnotified, hwork⟩ := flags_of_answers hr hanswer
  refine h.concat (fun hclaiming => nomatch hclaiming.symm.trans hafter) (fun _ => ?_) ?_ ?_
  · show w'.notified = w'.work.pending
    rw [hnotified, hwork]
    exact h.inStep hbefore
  · intro found hm
    cases hm
    exact absurd rfl hr
  · rw [hafter, hbefore]
    exact alternates_neither rfl (isClaim_answered_of_ne hr)

/-- Every step keeps the flags together. An edge raises both or neither, being woken takes the
notification down ahead of the pending run, and the claim that is owed then takes the run. -/
theorem Alert.step (h : Alert t s) (hprompt : s.stage.Prompt claimOwed)
    (hstep : worker.Step s m s') : Alert (t ++ [m]) s' := by
  cases hstep with
  | event e w stage =>
    refine h.concat (fun hstage => ?_) (fun hstage => ?_) nofun (alternates_neither rfl rfl)
    · -- Between being woken and the claim a run is pending, so the edge changes nothing.
      obtain ⟨hpending, hnotified⟩ := h.claiming hstage
      rcases w.edge_cases with ⟨hn, hp⟩ | ⟨hp, -, -⟩
      · exact ⟨hp.trans hpending, hn.trans hnotified⟩
      · exact nomatch hp.symm.trans hpending
    · rcases w.edge_cases with ⟨hn, hp⟩ | ⟨-, hn, hp⟩
      · exact hn.trans ((h.inStep hstage).trans hp.symm)
      · exact hn.trans hp.symm
  | @called k a w w' p hwake =>
    obtain ⟨hnotified, rfl, pad, -, rfl⟩ := hwake
    have howes := (prompt_serve pad).2
    have hpending : w.work.pending = true := (h.inStep rfl).symm.trans hnotified
    refine h.concat (fun _ => ⟨hpending, rfl⟩) (fun hstage => ?_) nofun ?_
    · exact nomatch howes.symm.trans hstage
    · show Alternates isWakeUp isClaim false _ ((serve pad).owes claimOwed)
      rw [howes]
      exact alternates_opening rfl
  | asked w r next => exact h.concat h.claiming h.inStep nofun (alternates_neither rfl rfl)
  | waited hwait => exact absurd hwait id
  | @answered w w' r next x hanswer =>
    obtain ⟨hdone, -⟩ := hprompt x
    by_cases hr : r = .driver .claim
    · subst hr
      exact h.claimed hdone hanswer
    · exact h.answered hr hdone hanswer

theorem alert_of_runs (hrun : worker.Runs (workerStart config) t s) : Alert t s := by
  induction hrun with
  | start => exact alert_start config
  | step run step ih => exact ih.step (kept_claimOwed run).prompt step

/-- What the moments of a run tell of notifications and pending runs. -/
structure WakeUpsMatchRuns (t : List (Moment Surroundings Unit Unit))
    (s : Situation Surroundings MotionInterrupt (Option Trackpad)) : Prop where
  /-- Whenever the worker waits, or is about to, a notification is outstanding exactly if a run is
  pending. -/
  inStep : ∀ pad, s.stage = .ready (.done (some pad)) →
    (s.shared.notified = true ↔ s.shared.work.pending = true)
  /-- So it does not go on waiting while a run is pending. -/
  roused : ∀ pad, s.stage = .ready (.done (some pad)) → s.shared.work.pending = true →
    ∃ s', worker.Step s (.called ()) s'
  /-- No claim is in vain. -/
  found : ∀ found : Bool, .answered ⟨.driver .claim, found⟩ ∈ t → found = true
  /-- From one wake-up to the next, exactly one run is claimed. -/
  claimedOnce : ∀ before between after,
    t = before ++ (.called () :: between ++ .called () :: after) →
      (∀ z ∈ between, isWakeUp z = false) → between.countP isClaim = 1
  /-- Whenever the worker is back at its wait, it has claimed one run for every wake-up. -/
  balanced : ∀ pad, s.stage = .ready (.done (some pad)) → t.countP isWakeUp = t.countP isClaim

/-- Wherever edges land, while the trackpad is brought up, in the middle of any transfer of any run
or while the worker waits: notifications and pending runs match. -/
theorem wakes_match_runs (hrun : worker.Runs (workerStart config) t s) : WakeUpsMatchRuns t s := by
  have halert := alert_of_runs hrun
  have hwaiting : ∀ pad, s.stage = .ready (.done (some pad)) → isClaiming s.stage = false := by
    intro pad hstage
    rw [hstage]
    rfl
  refine ⟨?_, ?_, halert.found, ?_, ?_⟩
  · intro pad hstage
    rw [halert.inStep (hwaiting pad hstage)]
  · -- A run that is pending has notified the worker, so that it can be woken.
    intro pad hstage hpending
    have hnotified := (halert.inStep (hwaiting pad hstage)).trans hpending
    obtain ⟨m, stage⟩ := s
    obtain rfl : stage = .ready (.done (some pad)) := hstage
    exact ⟨_, .called ⟨hnotified, rfl, pad, rfl, rfl⟩⟩
  · -- Claims and wake-ups take turns.
    intro before between after ht hbetween
    exact Alternates.closes_once isClaim_of_isWakeUp (ht ▸ halert.turns) rfl rfl hbetween
  · intro pad hstage
    have hcount := halert.turns.countP_eq isClaim_of_isWakeUp
    rwa [hwaiting pad hstage] at hcount

/-- An edge during the bring-up wakes the worker, and another one lands while its run fails. -/
def edgeDuringFault : List (Moment Surroundings Unit Unit) :=
  [.asked (.driver .busReady), .answered ⟨.driver .busReady, true⟩,
    .asked (.driver .irqReady), .answered ⟨.driver .irqReady, true⟩,
    .asked (.driver (.drive true)), .answered ⟨.driver (.drive true), .ok ()⟩,
    .asked (.pins (.call (.configure (Gpio.motionSetup Pins.motion)))),
    .answered ⟨.pins (.call (.configure (Gpio.motionSetup Pins.motion))), (0 : Int)⟩,
    .asked (.pins (.call (.installService 0))),
    .answered ⟨.pins (.call (.installService 0)), (259 : Int)⟩,
    .asked (.pins (.call (.addHandler Pins.motion))),
    .answered ⟨.pins (.call (.addHandler Pins.motion)), (0 : Int)⟩,
    .asked (.pins (.call (.enableInterrupt Pins.motion))),
    .answered ⟨.pins (.call (.enableInterrupt Pins.motion)), (0 : Int)⟩,
    .asked (.pins (.note (.motionArmed Pins.motion))),
    .answered ⟨.pins (.note (.motionArmed Pins.motion)), ()⟩,
    .asked (.driver (.delay Trackpad.startupDelay)),
    .answered ⟨.driver (.delay Trackpad.startupDelay), ()⟩,
    .asked (.driver (.command .config1)), .event (),
    .answered ⟨.driver (.command .config1), .ok 0⟩,
    .asked (.driver (.command .config2)), .answered ⟨.driver (.command .config2), .ok 0⟩,
    .asked (.driver (.command .powerUp)), .answered ⟨.driver (.command .powerUp), .ok 0⟩,
    .asked (.driver (.note (.initialised 0 {}))),
    .answered ⟨.driver (.note (.initialised 0 {})), ()⟩,
    .called (), .asked (.driver .claim), .answered ⟨.driver .claim, true⟩,
    .asked (.driver (.command .readMotion)), .event (),
    .answered ⟨.driver (.command .readMotion), .error (.spi .other)⟩,
    .asked (.driver (.note (.commandFailed .readMotion (.spi .other)))),
    .answered ⟨.driver (.note (.commandFailed .readMotion (.spi .other))), ()⟩]

/-- The worker is back at its wait, with a run pending and a notification outstanding. -/
theorem runs_edgeDuringFault :
    worker.Runs (workerStart {}) edgeDuringFault
      ⟨⟨true, ⟨true, .idle, 2, 1⟩, true⟩, .ready (.done (some ⟨{}, .wired, 0, 0⟩))⟩ := by
  refine .cons (.asked _ _ _) (.cons (.answered rfl) ?_)
  refine .cons (.asked _ _ _) (.cons (.answered rfl) ?_)
  refine .cons (.asked _ _ _) (.cons (.answered rfl) ?_)
  refine .cons (.asked _ _ _) (.cons (.answered rfl) ?_)
  refine .cons (.asked _ _ _) (.cons (.answered rfl) ?_)
  refine .cons (.asked _ _ _) (.cons (.answered rfl) ?_)
  refine .cons (.asked _ _ _) (.cons (.answered rfl) ?_)
  refine .cons (.asked _ _ _) (.cons (.answered rfl) ?_)
  refine .cons (.asked _ _ _) (.cons (.answered rfl) ?_)
  refine .cons (.asked _ _ _) (.cons (.event _ _ _) (.cons (.answered rfl) ?_))
  refine .cons (.asked _ _ _) (.cons (.answered rfl) ?_)
  refine .cons (.asked _ _ _) (.cons (.answered rfl) ?_)
  refine .cons (.asked _ _ _) (.cons (.answered rfl) ?_)
  -- One edge came during the bring-up, so the worker is woken at once.
  refine .cons (.called ⟨rfl, rfl, _, rfl, rfl⟩) ?_
  refine .cons (.asked _ _ _) (.cons (.answered ⟨rfl, rfl⟩) ?_)
  refine .cons (.asked _ _ _) (.cons (.event _ _ _) (.cons (.answered rfl) ?_))
  exact .cons (.asked _ _ _) (.cons (.answered rfl) .start)

theorem wakes_match_runs_edgeDuringFault :
    WakeUpsMatchRuns edgeDuringFault
      ⟨⟨true, ⟨true, .idle, 2, 1⟩, true⟩, .ready (.done (some ⟨{}, .wired, 0, 0⟩))⟩ :=
  wakes_match_runs runs_edgeDuringFault

end Worker

end TactilePad.Firmware
