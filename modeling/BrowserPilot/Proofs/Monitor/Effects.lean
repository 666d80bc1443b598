import BrowserPilot.Monitor.Signal

/-!
# Effects of moves

The records of the steps are cut at the step that a move works on: `done`
before it, `st` at it, `rest` after it. On such a monitor every move comes down
to an update written out here, and nothing later opens a move again.
-/

namespace BrowserPilot

@[simp] theorem ok_bind {ε α β : Type} (a : α) (f : α → Except ε β) : (Except.ok a >>= f) = f a := rfl

/-! ## What is asked of the browser -/

def Request.isPerform : Request → Bool
  | .perform _ => true
  | _ => false

def Monitor.asked (m : Monitor) : List Request := m.requests.map (·.2)

/-! ## Records of steps -/

namespace StepStatus

def withError (e : String) (st : StepStatus) : StepStatus := { st with error := some e }

def logged (line : String) (st : StepStatus) : StepStatus := { st with logs := st.logs ++ [line] }

def inState (s : StepState) (st : StepStatus) : StepStatus := { st with state := s }

def started (now : Instant) (st : StepStatus) : StepStatus :=
  { st with startedAt := some (st.startedAt.getD now), state := .running }

def credited (fallback : Option Nat) (st : StepStatus) : StepStatus := { st with error := none, fallbackUsed := fallback }

def counted (number : Nat) (st : StepStatus) : StepStatus :=
  if number = 1 then st else { st with retryCount := st.retryCount + 1 }

def begun (now : Instant) (number : Nat) (line : String) (st : StepStatus) : StepStatus :=
  ((st.counted number).started now).logged line

def faulted (s : StepState) (e line : String) (st : StepStatus) : StepStatus :=
  ((st.withError e).logged line).inState s

def passed (fallback : Option Nat) (st : StepStatus) : StepStatus := (st.credited fallback).inState .success

def closed (now : Instant) (st : StepStatus) : StepStatus :=
  { st with
    endedAt := some now
    durationMs := match st.startedAt with
      | some start => some (start.millisecondsTo now)
      | none => st.durationMs
    final := true }

def errorOr (reason : String) (st : StepStatus) : String :=
  match st.error with
  | some e => if e.isEmpty then reason else e
  | none => reason

/-- The record of a step that is failed when the run is wound up. -/
def abandoned (now : Instant) (reason : String) (st : StepStatus) : StepStatus :=
  (st.faulted .failed (st.errorOr reason) reason).closed now

/-- Neither final nor passed, so that the run can still be wound up. -/
def isPending (st : StepStatus) : Bool := !st.final && !st.state.hasPassed

theorem transition_ok {st : StepStatus} {new : StepState} (now : Instant) (hf : st.final = false)
    (hc : st.state.canBecome new = true) (hn : new ≠ .running) : st.transition now new = .ok (st.inState new) := by
  simp [transition, hf, hc, hn, inState]

theorem transition_running {st : StepStatus} (now : Instant) (hf : st.final = false)
    (hc : st.state.canBecome .running = true) : st.transition now .running = .ok (st.started now) := by
  cases hs : st.startedAt <;> simp [transition, hf, hc, hs, started]

theorem log_ok {st : StepStatus} (line : String) (hf : st.final = false) : st.log line = .ok (st.logged line) := by
  simp [log, hf, logged]

theorem finalize_ok {st : StepStatus} (now : Instant) (hs : st.state.isTerminal = true) :
    st.finalize now = .ok (st.closed now) := by
  cases hb : st.startedAt <;> simp [finalize, hs, closed, hb]

theorem abandon_ok {st : StepStatus} (now : Moment) (reason : String) (h : st.isPending = true) :
    Monitor.abandon now reason st = .ok (st.faulted .failed (st.errorOr reason) reason) := by
  simp only [isPending, Bool.and_eq_true, Bool.not_eq_true'] at h
  obtain ⟨hf, hp⟩ := h
  have he : Monitor.abandon now reason st =
      Except.bind (if st.state = StepState.failed then .ok (st.withError (st.errorOr reason))
        else (st.withError (st.errorOr reason)).transition now.wall .failed) (log reason) := by
    cases h : st.error <;> simp only [Monitor.abandon, errorOr, withError, h]
  rw [he]
  by_cases hs : st.state = .failed
  · rw [if_pos hs]
    simp [Except.bind, log, withError, hf, faulted, logged, inState, hs]
  · have hc : st.state.canBecome .failed = true := by
      cases h : st.state <;> simp_all [StepState.canBecome, StepState.hasPassed]
    rw [if_neg hs, transition_ok now.wall (show (st.withError _).final = false from hf) hc (by decide)]
    simp [Except.bind, log, withError, hf, faulted, logged, inState]

theorem store_ok {st st' : StepStatus} {k : ActionKind} {r : Result} (h : st.store k r = .ok st') :
    st' = { st with output := st'.output, screenshot := st'.screenshot } := by
  unfold store at h
  split at h <;> cases h <;> rfl

end StepStatus

/-! ## Moves at a step -/

namespace Monitor

def withSteps (steps : List StepStatus) (m : Monitor) : Monitor := { m with session := { m.session with steps } }

@[simp] theorem withSteps_withSteps (l l' : List StepStatus) (m : Monitor) :
    (m.withSteps l).withSteps l' = m.withSteps l' := rfl

def attempting (now : Moment) (step : Step) (number : Nat) (done : List StepStatus) (st : StepStatus)
    (rest : List StepStatus) (m : Monitor) : Monitor :=
  let line := attemptLine number (1 + step.policy.retries) (step.attempt number).2
  { m.withSteps (done ++ st.begun now.wall number line :: rest) with
    events := m.events ++ if number = 1 then [⟨now, .stepStarted, startedData step⟩] else []
    requests := m.requests ++ [(now, .perform (step.attempt number).1)]
    phase := .inFlight ⟨done.length, number, (step.attempt number).1, (step.attempt number).2⟩ none }

def settling (now : Moment) (done : List StepStatus) (st : StepStatus) (rest : List StepStatus) (m : Monitor) :
    Monitor :=
  let session := { m.session with steps := done ++ st.closed now.wall :: rest }.recordOutcome (st.closed now.wall)
  { m with
    session
    events := m.events ++ [⟨now, .stepFinished, stepFinishedData (st.closed now.wall)⟩,
      ⟨now, .progress, [("progress", .num session.progress)]⟩] }

def failureLine (a : Attempt) (e : StepFault) : String := "attempt " ++ toString a.number ++ " failed: " ++ e.message

def failing (done : List StepStatus) (st : StepStatus) (rest : List StepStatus) (a : Attempt) (e : StepFault)
    (m : Monitor) : Monitor :=
  m.withSteps (done ++ st.faulted .failed e.message (failureLine a e) :: rest)

def backingOff (now : Moment) (a : Attempt) (step : Step) (e : StepFault) (delay : Amount) (m : Monitor) : Monitor :=
  { m with
    events := m.events ++ [⟨now, .stepRetrying, retryingData step (a.number + 1) delay e⟩]
    requests := m.requests ++ [(now, .sleep delay)]
    phase := .backingOff a false }

section
variable (now : Moment) (done : List StepStatus) (st : StepStatus) (rest : List StepStatus) (m : Monitor)

theorem settling_session : (m.settling now done st rest).session =
    { m.session with
      steps := done ++ st.closed now.wall :: rest
      completedSteps := m.session.completedSteps + if st.state = .failed then 0 else 1
      failedSteps := m.session.failedSteps + if st.state = .failed then 1 else 0 } := by
  by_cases h : st.state = .failed <;> simp [settling, Session.recordOutcome, StepStatus.closed, h]

@[simp] theorem settling_steps : (m.settling now done st rest).session.steps = done ++ st.closed now.wall :: rest := by
  rw [settling_session]

@[simp] theorem settling_withSteps (l : List StepStatus) :
    (m.withSteps l).settling now done st rest = m.settling now done st rest := rfl

end

section
variable {m : Monitor} {done rest : List StepStatus} {st : StepStatus} (hs : m.session.steps = done ++ st :: rest)
include hs

theorem onStep_ok {f : StepStatus → Except Fault StepStatus} {t : StepStatus} (h : f st = .ok t) :
    m.onStep done.length f = .ok (m.withSteps (done ++ t :: rest)) := by
  simp [onStep, Session.updateStep, hs, h, Except.map, withSteps]

theorem onStep_error {f : StepStatus → Except Fault StepStatus} {e : Fault} (h : f st = .error e) :
    m.onStep done.length f = .error ⟨m, e⟩ := by
  simp [onStep, Session.updateStep, hs, h, Except.map]

theorem finalizeStep_eq (now : Moment) (ht : st.state.isTerminal = true) :
    m.finalizeStep now done.length = .ok (m.settling now done st rest) := by
  unfold finalizeStep
  rw [onStep_ok hs (StepStatus.finalize_ok now.wall ht)]
  simp [Except.map, announceStep, settling, withSteps, emit, progressData]

theorem beginAttempt_eq (now : Moment) (step : Step) (number : Nat) (hf : st.final = false)
    (hc : st.state.canBecome .running = true) :
    m.beginAttempt now done.length step number = .ok (m.attempting now step number done st rest, .wait) := by
  have hf₁ : (st.counted number).final = false := by
    by_cases h : number = 1 <;> simp [StepStatus.counted, h, hf]
  have hc₁ : (st.counted number).state.canBecome .running = true := by
    by_cases h : number = 1 <;> simp [StepStatus.counted, h, hc]
  have h₁ := onStep_ok hs (f := fun st => .ok (if number = 1 then st else { st with retryCount := st.retryCount + 1 }))
    (t := st.counted number) rfl
  have h₂ := onStep_ok (m := m.withSteps (done ++ st.counted number :: rest)) rfl
    (StepStatus.transition_running now.wall hf₁ hc₁)
  have h₃ (m₁ : Monitor) (h : m₁.session.steps = done ++ (st.counted number).started now.wall :: rest) (line : String) :=
    onStep_ok h (StepStatus.log_ok line (show ((st.counted number).started now.wall).final = false from hf₁))
  unfold beginAttempt
  simp only [h₁, h₂, ok_bind, withSteps_withSteps]
  by_cases h : number = 1
  · rw [if_pos h, h₃ _ rfl]
    simp [attempting, StepStatus.begun, withSteps, emit, request, h]
  · rw [if_neg h, h₃ _ rfl]
    simp [attempting, StepStatus.begun, withSteps, request, h]

theorem passAttempt_error (now : Moment) (a : Attempt) (ha : a.index = done.length) {r : Result} {e : Fault}
    (hstore : st.store a.action.kind r = .error e) : m.passAttempt now a r = .error ⟨m, e⟩ := by
  unfold passAttempt
  rw [ha, onStep_error hs hstore]
  rfl

theorem giveUp_eq (now : Moment) (ht : st.state.isTerminal = true) :
    m.giveUp now done.length =
      if m.plan.abortsOnFailure then .ok (m.settling now done st rest, .leave)
      else (m.settling now done st rest).enterStep now (done.length + 1) := by
  unfold giveUp
  rw [finalizeStep_eq hs now ht]
  rfl

variable (hf : st.final = false) (hr : st.state = .running)
include hf hr

theorem fault_eq (now : Moment) (s : StepState) (e line : String) (hc : StepState.running.canBecome s = true)
    (next : Monitor → Except Halt (Monitor × Next)) :
    (do let m ← m.onStep done.length fun st => .ok { st with error := some e }
        let m ← m.onStep done.length (StepStatus.log line)
        let m ← m.onStep done.length (StepStatus.transition now.wall s)
        next m) = next (m.withSteps (done ++ st.faulted s e line :: rest)) := by
  have hn : s ≠ .running := by rintro rfl; cases hc
  have hc' : st.state.canBecome s = true := hr ▸ hc
  have h₁ := onStep_ok hs (f := fun st => .ok { st with error := some e }) (t := st.withError e) rfl
  have h₂ := onStep_ok (m := m.withSteps (done ++ st.withError e :: rest)) rfl
    (StepStatus.log_ok line (show (st.withError e).final = false from hf))
  have h₃ := onStep_ok (m := m.withSteps (done ++ (st.withError e).logged line :: rest)) rfl
    (StepStatus.transition_ok now.wall (show ((st.withError e).logged line).final = false from hf) hc' hn)
  simp only [h₁, h₂, h₃, ok_bind, withSteps_withSteps]
  rfl

theorem cancelAttempt_eq (now : Moment) (a : Attempt) (ha : a.index = done.length) :
    m.cancelAttempt now a =
      .ok (m.settling now done (st.faulted .failed "stopped" "stopped while running") rest, .leave) := by
  unfold cancelAttempt
  rw [ha, fault_eq hs hf hr now .failed _ _ rfl, finalizeStep_eq rfl now rfl]
  rfl

theorem passAttempt_eq (now : Moment) (a : Attempt) (ha : a.index = done.length) {r : Result} {st' : StepStatus}
    (hstore : st.store a.action.kind r = .ok st') :
    m.passAttempt now a r = (m.settling now done (st'.passed a.fallback) rest).enterStep now (done.length + 1) := by
  have hst := StepStatus.store_ok hstore
  have hf' : (st'.credited a.fallback).final = false := by rw [hst]; exact hf
  have hr' : (st'.credited a.fallback).state.canBecome .success = true := by
    rw [show (st'.credited a.fallback).state = .running by rw [hst]; exact hr]
    rfl
  have h₁ := onStep_ok hs hstore
  have h₂ := onStep_ok (m := m.withSteps (done ++ st' :: rest)) rfl
    (f := fun st => .ok { st with error := none, fallbackUsed := a.fallback }) (t := st'.credited a.fallback) rfl
  have h₃ := onStep_ok (m := m.withSteps (done ++ st'.credited a.fallback :: rest)) rfl
    (StepStatus.transition_ok now.wall hf' hr' (by decide))
  unfold passAttempt
  simp only [ha, h₁, h₂, h₃, ok_bind, withSteps_withSteps]
  rw [finalizeStep_eq rfl now rfl]
  rfl

theorem failAttempt_ignored (now : Moment) (a : Attempt) (ha : a.index = done.length) {step : Step}
    (hi : step.policy.ignoresErrors = true) (e : StepFault) :
    m.failAttempt now a step e =
      (m.settling now done (st.faulted .skipped e.message ("error ignored: " ++ e.message)) rest).enterStep now
        (done.length + 1) := by
  unfold failAttempt
  simp only [hi, if_true, ha]
  rw [fault_eq hs hf hr now .skipped _ _ rfl, finalizeStep_eq rfl now rfl]
  rfl

theorem failAttempt_eq (now : Moment) (a : Attempt) (ha : a.index = done.length) {step : Step}
    (hi : step.policy.ignoresErrors = false) (e : StepFault) :
    m.failAttempt now a step e =
      if a.number < 1 + step.policy.retries && !m.control.stopped then
        match m.plan.delay a.number e with
        | .error f => .error ⟨m.failing done st rest a e, f⟩
        | .ok delay => .ok ((m.failing done st rest a e).backingOff now a step e delay, .wait)
      else (m.failing done st rest a e).giveUp now done.length := by
  unfold failAttempt
  simp only [hi, if_false, ha, Bool.false_eq_true]
  rw [fault_eq hs hf hr now .failed _ _ rfl]
  rfl

end

/-- Every fault but a failed launch is a matter of the step. -/
theorem settleAttempt_raised {m : Monitor} (now : Moment) {a : Attempt} {step : Step} (hi : m.plan.steps[a.index]? = some step)
    {f : Fault} (hf : ∀ message, f ≠ .sessionInit message) :
    m.settleAttempt now a (.raised f) = m.failAttempt now a step (f.asStepFault step.id) := by
  cases f with
  | sessionInit message => exact absurd rfl (hf message)
  | _ => simp only [settleAttempt, hi]

/-! ## The state of the session -/

def stopping (now : Moment) (m : Monitor) : Monitor :=
  if m.session.isTerminal then m else { m with session := { m.session with state := .failed, endedAt := some now.wall } }

theorem markStopped_eq (now : Moment) (m : Monitor) : m.markStopped now = .ok (m.stopping now) := by
  unfold markStopped stopping
  by_cases h : m.session.isTerminal = true
  · rw [if_pos h, if_pos h]
  · have hc : m.session.state.canBecome .failed = true := by
      cases hs : m.session.state <;> simp_all [Session.isTerminal, SessionState.isTerminal, SessionState.canBecome]
    rw [if_neg h, if_neg h]
    simp [setState, Session.setState, hc, SessionState.isTerminal]

theorem receive_stop (now : Moment) (m : Monitor) : m.receive now .stop = (m.applyControl .stop).stopping now := by
  simp only [receive, markStopped_eq, orRaised]

theorem stopping_phase (now : Moment) (m : Monitor) : (m.stopping now).phase = m.phase := by
  unfold stopping; split <;> rfl

theorem stopping_requests (now : Moment) (m : Monitor) : (m.stopping now).requests = m.requests := by
  unfold stopping; split <;> rfl

theorem stopping_isTerminal (now : Moment) (m : Monitor) : (m.stopping now).session.isTerminal = true := by
  unfold stopping
  split
  · assumption
  · rfl

theorem setState_ok {m : Monitor} {new : SessionState} (now : Moment) (hc : m.session.state.canBecome new = true)
    (ht : new.isTerminal = false) : m.setState now new = .ok { m with session := { m.session with state := new } } := by
  simp [setState, Session.setState, hc, ht]

def pausing (now : Moment) (i : Nat) (m : Monitor) : Monitor :=
  let m := { m with session := { m.session with state := .paused } }
  { m.emit now .sessionPaused m.progressData with phase := .parked i false }

def resuming (now : Moment) (m : Monitor) : Monitor :=
  let m := { m with session := { m.session with state := .running } }
  m.emit now .sessionResumed m.progressData

section
variable {m : Monitor} {i : Nat}

theorem enterStep_none (now : Moment) (hi : m.plan.steps[i]? = none) : m.enterStep now i = .ok (m, .leave) := by
  simp only [enterStep, hi]

variable {step : Step} (hi : m.plan.steps[i]? = some step)
include hi

theorem enterStep_stopped (now : Moment) (hst : m.control.stopped = true) :
    m.enterStep now i = .ok (m.stopping now, .leave) := by
  simp [enterStep, hi, hst, markStopped_eq, Except.map]

theorem enterStep_paused (now : Moment) (hst : m.control.stopped = false) (hpa : m.control.paused = true)
    (hr : m.session.state = .running) : m.enterStep now i = .ok (m.pausing now i, .wait) := by
  have hcan : m.session.state.canBecome .paused = true := by rw [hr]; rfl
  simp [enterStep, hi, hst, hpa, setState_ok now hcan rfl, pausing]

theorem enterStep_free (now : Moment) (hst : m.control.stopped = false) (hpa : m.control.paused = false) :
    m.enterStep now i = m.beginAttempt now i step 1 := by
  simp [enterStep, hi, hst, hpa]

end

theorem start_eq {m : Monitor} (now : Moment) (hs : m.session.steps = m.plan.steps.map StepStatus.ofStep) :
    m.start now = afterMove now ((m.emit now .sessionStarted
      [("task_name", .str m.session.taskName), ("total_steps", .ofNat m.session.totalSteps)]).enterStep now 0) := by
  unfold start
  cases hlist : m.plan.steps with
  | nil =>
    have hnone : m.session.firstPending? = none := by simp [Session.firstPending?, hs, hlist]
    simp only [emit, hnone]
    rw [enterStep_none now (by simp [hlist])]
  | cons step post =>
    have hzero : m.session.firstPending? = some 0 := by
      simp [Session.firstPending?, hs, hlist, StepStatus.isTerminal, StepStatus.ofStep, List.findIdx?_cons]
    simp only [emit, hzero]

theorem leavePark_stopped {m : Monitor} (now : Moment) (i : Nat) (hst : m.control.stopped = true) :
    m.leavePark now i = .ok (m.stopping now, .leave) := by
  simp [leavePark, hst, markStopped_eq, Except.map]

theorem leavePark_eq {m : Monitor} (now : Moment) (i : Nat) (hst : m.control.stopped = false)
    (hpa : m.session.state = .paused) :
    m.leavePark now i = match m.plan.steps[i]? with
      | none => .ok (m.resuming now, .leave)
      | some step => (m.resuming now).beginAttempt now i step 1 := by
  have hcan : m.session.state.canBecome .running = true := by rw [hpa]; rfl
  simp only [leavePark, hst, Bool.false_eq_true, if_false, setState_ok now hcan rfl, ok_bind]
  rfl

/-! ## Winding up -/

/-- The monitor once the steps in `rest` are failed, those in `done` being settled. -/
def winding (now : Moment) (reason : String) : List StepStatus → List StepStatus → Monitor → Monitor
  | _, [], m => m
  | done, st :: rest, m =>
    winding now reason (done ++ [st.abandoned now.wall reason]) rest
      (m.settling now done (st.faulted .failed (st.errorOr reason) reason) rest)

def lastState (m : Monitor) : SessionState :=
  if (m.session.steps.all fun st => st.state.hasPassed) && !m.control.stopped && m.session.state == .running then
    .completed
  else .failed

def concluding (now : Moment) (m : Monitor) : Monitor :=
  if m.session.isTerminal then m
  else { m with session := { m.session with state := m.lastState, endedAt := some now.wall } }

def ending (now : Moment) (done rest : List StepStatus) (m : Monitor) : Monitor :=
  let m := ({ m with isFinished := true }.winding now notExecuted done rest).concluding now
  if m.control.stopped then { m.request now .closeBrowser with phase := .closing } else m.announceEnd now

theorem conclude_eq (now : Moment) (m : Monitor) : conclude now m = .ok (m.concluding now) := by
  unfold conclude concluding
  by_cases h : m.session.isTerminal = true
  · rw [if_pos h, if_pos h]
  · have hc : m.session.state.canBecome m.lastState = true := by
      unfold lastState
      cases hs : m.session.state with
      | running => split <;> rfl
      | paused => simp [SessionState.canBecome]
      | completed | failed => simp [Session.isTerminal, hs, SessionState.isTerminal] at h
    have ht : m.lastState.isTerminal = true := by unfold lastState; split <;> rfl
    rw [if_neg h, if_neg h]
    change m.setState now m.lastState = _
    simp [setState, Session.setState, hc, ht]

theorem winding_eq (now : Moment) (reason : String) : ∀ (rest done : List StepStatus) (m : Monitor),
    m.session.steps = done ++ rest →
      m.winding now reason done rest =
        { m with
          session := { m.session with
            steps := done ++ rest.map (StepStatus.abandoned now.wall reason)
            failedSteps := m.session.failedSteps + rest.length }
          events := (m.winding now reason done rest).events }
  | [], done, m, hs => by simp [winding, ← hs]
  | st :: rest, done, m, hs => by
    let m' := m.settling now done (st.faulted .failed (st.errorOr reason) reason) rest
    have hs' : m'.session.steps = (done ++ [st.abandoned now.wall reason]) ++ rest := by
      simp [m', StepStatus.abandoned]
    have ih := winding_eq now reason rest _ m' hs'
    have hw : m.winding now reason done (st :: rest) = m'.winding now reason (done ++ [st.abandoned now.wall reason]) rest :=
      rfl
    rw [hw, ih]
    simp only [m', settling_session]
    simp [settling, StepStatus.faulted, StepStatus.inState, Nat.add_assoc, Nat.add_comm 1]

theorem failAt_append (now : Moment) (reason : String) {m : Monitor} (js : List Nat) : ∀ (is : List Nat),
    (∀ i ∈ is, ∃ st, m.session.steps[i]? = some st ∧ st.isTerminal = true) →
      failAt now reason (is ++ js) m = failAt now reason js m
  | [], _ => rfl
  | i :: is, h => by
    obtain ⟨st, hi, ht⟩ := h i (by simp)
    rw [List.cons_append, failAt, hi]
    simp only [ht, if_true]
    exact failAt_append now reason js is fun j hj => h j (by simp [hj])

theorem failAt_eq (now : Moment) (reason : String) : ∀ (rest done : List StepStatus) (m : Monitor),
    m.session.steps = done ++ rest → (∀ st ∈ rest, st.isPending = true) →
      failAt now reason (List.range' done.length rest.length) m = .ok (m.winding now reason done rest)
  | [], _, _, _, _ => rfl
  | st :: rest, done, m, hs, hp => by
    have hst := hp st (by simp)
    have ht : st.isTerminal = false := by
      simp only [StepStatus.isPending, Bool.and_eq_true, Bool.not_eq_true'] at hst
      simp [StepStatus.isTerminal, hst.1]
    have hi : m.session.steps[done.length]? = some st := by simp [hs]
    let st' := st.faulted .failed (st.errorOr reason) reason
    have h₁ := onStep_ok hs (StepStatus.abandon_ok now reason hst)
    have h₂ := finalizeStep_eq (m := m.withSteps (done ++ st' :: rest)) rfl now rfl
    have ih := failAt_eq now reason rest (done ++ [st.abandoned now.wall reason]) (m.settling now done st' rest)
      (by simp [StepStatus.abandoned, st']) fun st h => hp st (by simp [h])
    rw [List.length_cons, List.range'_succ, failAt, hi]
    simp only [ht, Bool.false_eq_true, if_false, h₁, Except.bind]
    rw [h₂]
    simpa [winding] using ih

section
variable {m : Monitor} {done rest : List StepStatus} (hs : m.session.steps = done ++ rest)
  (hd : ∀ st ∈ done, st.isTerminal = true) (hp : ∀ st ∈ rest, st.isPending = true)
include hs hd hp

theorem failRemaining_eq (now : Moment) (reason : String) :
    m.failRemaining now reason = .ok (m.winding now reason done rest) := by
  have hr : List.range m.session.steps.length = List.range done.length ++ List.range' done.length rest.length := by
    rw [hs, List.length_append, List.range_eq_range', List.range_eq_range', ← List.range'_append_1, Nat.zero_add]
  unfold failRemaining
  rw [hr, failAt_append now reason _ _ ?_, failAt_eq now reason rest done m hs hp]
  intro i hi
  have hl := List.mem_range.mp hi
  exact ⟨done[i], by rw [hs, List.getElem?_append_left hl, List.getElem?_eq_getElem hl], hd _ (List.getElem_mem hl)⟩

theorem finish_eq (now : Moment) : m.finish now = .ok (m.ending now done rest) := by
  unfold finish
  rw [failRemaining_eq (m := { m with isFinished := true }) hs hd hp now notExecuted]
  simp only [Except.bind, conclude_eq, Except.map]
  rfl

theorem recover_eq (now : Moment) (f : Fault) :
    recover now ⟨m, f⟩ = .ok ((m.emit now .error [("error", .str f.message)]).winding now (reasonOf f) done rest) :=
  failRemaining_eq (m := m.emit now .error [("error", .str f.message)]) hs hd hp now (reasonOf f)

end

theorem concluding_eq (now : Moment) (m : Monitor) : m.concluding now =
    { m with session := { m.session with
      state := (m.concluding now).session.state, endedAt := (m.concluding now).session.endedAt } } := by
  unfold concluding
  split <;> rfl

/-- Once it is wound up, a run is over unless a stop leaves the browser to close. -/
theorem ending_effect {m : Monitor} {done rest : List StepStatus} (now : Moment) (hs : m.session.steps = done ++ rest) :
    (m.ending now done rest).phase = (if m.control.stopped then .closing else .finished) ∧
      (m.ending now done rest).requests = m.requests ++ (if m.control.stopped then [(now, .closeBrowser)] else []) ∧
        (m.ending now done rest).session.steps = done ++ rest.map (StepStatus.abandoned now.wall notExecuted) := by
  have hw := winding_eq now notExecuted rest done { m with isFinished := true } hs
  have hc : (({ m with isFinished := true }.winding now notExecuted done rest).concluding now).control = m.control := by
    rw [concluding_eq, hw]
  unfold ending
  simp only [hc]
  by_cases hst : m.control.stopped = true
  · rw [if_pos hst, if_pos hst, if_pos hst, concluding_eq, hw]
    exact ⟨rfl, rfl, rfl⟩
  · rw [if_neg hst, if_neg hst, if_neg hst, concluding_eq, hw]
    exact ⟨rfl, (List.append_nil _).symm, rfl⟩

end Monitor

end BrowserPilot
