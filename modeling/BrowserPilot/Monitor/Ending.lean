import BrowserPilot.Monitor.Basic

/-!
# Winding up

However a run ends, every step that has not been settled is failed with the
reason, the session gets its last state and, after a stop, the browser is
closed.
-/

namespace BrowserPilot.Monitor

/-- The reason recorded for steps that never ran. -/
def notExecuted : String := "not executed"

/-- The state of a step that the end of the run finds unsettled. An error that
was already recorded is kept. -/
def abandon (now : Moment) (reason : String) (st : StepStatus) : Except Fault StepStatus :=
  let error := match st.error with
    | some e => if e.isEmpty then reason else e
    | none => reason
  let st := { st with error := some error }
  -- the last attempt may have left the step failed, and no edge leads from there to itself
  (if st.state = .failed then .ok st else st.transition now.wall .failed).bind (StepStatus.log reason)

def failAt (now : Moment) (reason : String) : List Nat → Monitor → Except Halt Monitor
  | [], m => .ok m
  | i :: rest, m =>
    match m.session.steps[i]? with
    | none => failAt now reason rest m
    | some st =>
      if st.isTerminal then failAt now reason rest m
      else
        ((m.onStep i (abandon now reason)).bind (finalizeStep now i)).bind (failAt now reason rest)

def failRemaining (now : Moment) (reason : String) (m : Monitor) : Except Halt Monitor :=
  failAt now reason (List.range m.session.steps.length) m

def finishedData (s : Session) : Json.Members :=
  [("status", .str s.state.name), ("completed_steps", .ofNat s.completedSteps),
    ("failed_steps", .ofNat s.failedSteps), ("total_steps", .ofNat s.totalSteps)]

def announceEnd (now : Moment) (m : Monitor) : Monitor :=
  { m.emit now .sessionFinished (finishedData m.session) with phase := .finished }

/-- The last state of a session: completed when every step has passed and
nothing stopped it. -/
def conclude (now : Moment) (m : Monitor) : Except Halt Monitor :=
  if m.session.isTerminal then .ok m
  else
    let passed := m.session.steps.all fun st => st.state.hasPassed
    m.setState now (if passed && !m.control.stopped && m.session.state == .running then .completed else .failed)

def finish (now : Moment) (m : Monitor) : Except Halt Monitor :=
  ((failRemaining now notExecuted { m with isFinished := true }).bind (conclude now)).map fun m =>
    if m.control.stopped then { m.request now .closeBrowser with phase := .closing } else m.announceEnd now

/-- Why a run that met a fault outside the policies of its steps has failed. -/
def reasonOf : Fault → String
  | .sessionInit message => "session init failed: " ++ message
  | f => "internal error: " ++ f.message

def recover (now : Moment) (h : Halt) : Except Halt Monitor :=
  failRemaining now (reasonOf h.fault) (h.monitor.emit now .error [("error", .str h.fault.message)])

/-- A monitor that takes no further part, should winding up fail as well. -/
def orRaised : Except Halt Monitor → Monitor
  | .ok m => m
  | .error h => { h.monitor with phase := .raised h.fault }

end BrowserPilot.Monitor
