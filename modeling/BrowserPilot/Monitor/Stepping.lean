import BrowserPilot.Monitor.Ending

/-!
# Going through the steps

The moves between two waits: starting a step or honouring a pause or a stop in
front of it, starting an attempt, and acting on its outcome. Each ends either
in a new wait or with the end of the step loop.
-/

namespace BrowserPilot.Monitor

/-- How a move leaves the step loop. -/
inductive Next where
  | wait
  | leave
  deriving DecidableEq, Repr

def attemptLine (number attempts : Nat) (fallback : Option Nat) : String :=
  "attempt " ++ toString number ++ "/" ++ toString attempts ++
    match fallback with
    | some k => " (fallback " ++ toString k ++ ")"
    | none => ""

def startedData (s : Step) : Json.Members :=
  [("step_id", .str s.id), ("ordinal", .ofNat s.ordinal), ("type", .str s.kind.name)]

def beginAttempt (now : Moment) (i : Nat) (step : Step) (number : Nat) (m : Monitor) : Except Halt (Monitor × Next) := do
  let (action, fallback) := step.attempt number
  let m ← m.onStep i fun st => .ok (if number = 1 then st else { st with retryCount := st.retryCount + 1 })
  let m ← m.onStep i (StepStatus.transition now.wall .running)
  let m := if number = 1 then m.emit now .stepStarted (startedData step) else m
  let m ← m.onStep i (StepStatus.log (attemptLine number (1 + step.policy.retries) fallback))
  let m := m.request now (.perform action)
  .ok ({ m with phase := .inFlight ⟨i, number, action, fallback⟩ none }, .wait)

/-- Goes on with the step at a place, unless the run is stopped or paused. -/
def enterStep (now : Moment) (i : Nat) (m : Monitor) : Except Halt (Monitor × Next) :=
  match m.plan.steps[i]? with
  | none => .ok (m, .leave)
  | some step =>
    -- a stop ends every pause, so that at most one of the two holds
    if m.control.stopped then (m.markStopped now).map fun m => (m, .leave)
    else if m.control.paused then do
      let m ← m.setState now .paused
      let m := m.emit now .sessionPaused m.progressData
      .ok ({ m with phase := .parked i false }, .wait)
    else m.beginAttempt now i step 1

/-- Goes on after a pause, or ends when it was a stop that ended the pause. -/
def leavePark (now : Moment) (i : Nat) (m : Monitor) : Except Halt (Monitor × Next) :=
  if m.control.stopped then (m.markStopped now).map fun m => (m, .leave)
  else do
    let m ← m.setState now .running
    let m := m.emit now .sessionResumed m.progressData
    match m.plan.steps[i]? with
    | none => .ok (m, .leave)
    -- the token is not looked at again: a pause made since the resume comes too late for this step
    | some step => m.beginAttempt now i step 1

/-- Settles a step that will not be attempted again. -/
def giveUp (now : Moment) (i : Nat) (m : Monitor) : Except Halt (Monitor × Next) := do
  let m ← m.finalizeStep now i
  if m.plan.abortsOnFailure then .ok (m, .leave) else m.enterStep now (i + 1)

def retryingData (step : Step) (number : Nat) (delay : Amount) (e : StepFault) : Json.Members :=
  [("step_id", .str step.id), ("attempt", .ofNat number), ("delay_sec", .amount delay), ("error", .str e.message)]

def failAttempt (now : Moment) (a : Attempt) (step : Step) (e : StepFault) (m : Monitor) :
    Except Halt (Monitor × Next) := do
  let m ← m.onStep a.index fun st => .ok { st with error := some e.message }
  if step.policy.ignoresErrors then
    let m ← m.onStep a.index (StepStatus.log ("error ignored: " ++ e.message))
    let m ← m.onStep a.index (StepStatus.transition now.wall .skipped)
    let m ← m.finalizeStep now a.index
    m.enterStep now (a.index + 1)
  else
    let m ← m.onStep a.index (StepStatus.log ("attempt " ++ toString a.number ++ " failed: " ++ e.message))
    let m ← m.onStep a.index (StepStatus.transition now.wall .failed)
    -- a stop takes away what retries are left
    if a.number < 1 + step.policy.retries && !m.control.stopped then
      match m.plan.delay a.number e with
      | .error f => .error ⟨m, f⟩
      | .ok delay =>
        let m := m.emit now .stepRetrying (retryingData step (a.number + 1) delay e)
        let m := m.request now (.sleep delay)
        .ok ({ m with phase := .backingOff a false }, .wait)
    else m.giveUp now a.index

def passAttempt (now : Moment) (a : Attempt) (r : Result) (m : Monitor) : Except Halt (Monitor × Next) := do
  let m ← m.onStep a.index (StepStatus.store a.action.kind r)
  -- what an earlier attempt has left as the error is taken back
  let m ← m.onStep a.index fun st => .ok { st with error := none, fallbackUsed := a.fallback }
  let m ← m.onStep a.index (StepStatus.transition now.wall .success)
  let m ← m.finalizeStep now a.index
  m.enterStep now (a.index + 1)

/-- Acts on the outcome of an attempt. A browser that was never started is no
matter of the step. -/
def settleAttempt (now : Moment) (a : Attempt) (o : Outcome) (m : Monitor) : Except Halt (Monitor × Next) :=
  match o with
  | .finished r => m.passAttempt now a r
  | .raised (.sessionInit message) => .error ⟨m, .sessionInit message⟩
  | .raised f =>
    match m.plan.steps[a.index]? with
    | none => .ok (m, .leave)
    | some step => m.failAttempt now a step (f.asStepFault step.id)

/-- Records that a stop has cut an attempt short. -/
def cancelAttempt (now : Moment) (a : Attempt) (m : Monitor) : Except Halt (Monitor × Next) := do
  let m ← m.onStep a.index fun st => .ok { st with error := some "stopped" }
  let m ← m.onStep a.index (StepStatus.log "stopped while running")
  let m ← m.onStep a.index (StepStatus.transition now.wall .failed)
  let m ← m.finalizeStep now a.index
  .ok (m, .leave)

/-- Leaves a running primitive the time of grace. -/
def grantGrace (now : Moment) (a : Attempt) (m : Monitor) : Except Halt (Monitor × Next) := do
  let m ← m.markStopped now
  let m := m.emit now .sessionStopping [("grace_sec", .amount m.plan.grace)]
  let m := m.request now (.grace m.plan.grace)
  .ok ({ m with phase := .inGrace a none false }, .wait)

/-- Goes on after a delay, or gives the step up when the run has been stopped. -/
def leaveBackoff (now : Moment) (a : Attempt) (m : Monitor) : Except Halt (Monitor × Next) :=
  if m.control.stopped then do
    let m ← m.markStopped now
    m.giveUp now a.index
  else
    match m.plan.steps[a.index]? with
    | none => .ok (m, .leave)
    | some step => m.beginAttempt now a.index step (a.number + 1)

/-- What happens when the monitor gets its turn; nothing while what it waits
for has not come. -/
def takeTurn (now : Moment) (m : Monitor) : Except Halt (Monitor × Next) :=
  match m.phase with
  | .parked i true => m.leavePark now i
  | .inFlight a (some o) => m.settleAttempt now a o
  | .inFlight a none => if m.control.stopped then m.grantGrace now a else .ok (m, .wait)
  -- an outcome that has come counts, even if the time is up by now
  | .inGrace a (some o) _ => m.settleAttempt now a o
  | .inGrace a none true => m.cancelAttempt now a
  | .backingOff a slept => if slept || m.control.stopped then m.leaveBackoff now a else .ok (m, .wait)
  | _ => .ok (m, .wait)

/-- The monitor after a move of the step loop. Its end, or a fault in it, winds
the run up. -/
def afterMove (now : Moment) (r : Except Halt (Monitor × Next)) : Monitor :=
  match r with
  | .ok (m, .wait) => m
  | .ok (m, .leave) => orRaised (m.finish now)
  | .error h => orRaised ((recover now h).bind (finish now))

end BrowserPilot.Monitor
