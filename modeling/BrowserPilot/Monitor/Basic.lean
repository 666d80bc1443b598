import BrowserPilot.Control
import BrowserPilot.Event.Basic
import BrowserPilot.Session.Basic
import BrowserPilot.Session.Outcome

/-!
# The monitor of a session

A monitor takes the steps of a session one after the other through the
browser. It is a state machine: between two signals it rests in a `Phase` that
says what it waits for, and a signal makes it move to the next one. What it
tells observers and what it asks of the browser are kept in order.
-/

namespace BrowserPilot

structure Plan where
  steps : List Step
  /-- Seconds to wait after a failed attempt. -/
  delay : Nat → StepFault → Except Fault Amount
  abortsOnFailure : Bool := true
  /-- Seconds that a primitive may still run after a stop. -/
  grace : Amount := .part (.ofNat 5)

structure Attempt where
  index : Nat
  number : Nat
  action : Action
  fallback : Option Nat
  deriving DecidableEq, Repr

structure Emission where
  at_ : Moment
  kind : EventKind
  data : Json.Members

inductive Request where
  | perform (a : Action)
  /-- To be told when a delay between attempts is over. -/
  | sleep (seconds : Amount)
  /-- To be told when the time of grace is over. -/
  | grace (seconds : Amount)
  | closeBrowser
  deriving DecidableEq, Repr

inductive Phase where
  | ready
  /-- Paused before a step. Once woken it goes on, even if it is paused again. -/
  | parked (index : Nat) (woken : Bool)
  /-- A primitive is running, or has ended and its outcome is not yet seen. -/
  | inFlight (a : Attempt) (outcome : Option Outcome)
  /-- As `inFlight`, after a stop; the time that was left to it may be up. -/
  | inGrace (a : Attempt) (outcome : Option Outcome) (expired : Bool)
  /-- Between two attempts; the delay may be over. -/
  | backingOff (a : Attempt) (slept : Bool)
  /-- The browser is being closed after a stop. -/
  | closing
  | finished
  /-- The run itself failed. -/
  | raised (f : Fault)

structure Monitor where
  plan : Plan
  session : Session
  control : Control := {}
  isFinished : Bool := false
  phase : Phase := .ready
  events : List Emission := []
  requests : List (Moment × Request) := []

namespace Monitor

def create (now : Instant) (id taskName : String) (plan : Plan) (control : Control) :
    Except Step.SequenceFault Monitor :=
  (Step.checkSequence plan.steps).map fun _ =>
    { plan, session := Session.ofSteps now id taskName plan.steps, control }

/-! ## Moves

A move changes the monitor or stops with a fault; what it changed before the
fault stays changed. -/

/-- A fault with the monitor as it was left. -/
structure Halt where
  monitor : Monitor
  fault : Fault

abbrev Move := Monitor → Except Halt Monitor

def emit (now : Moment) (kind : EventKind) (data : Json.Members) (m : Monitor) : Monitor :=
  { m with events := m.events ++ [⟨now, kind, data⟩] }

def request (now : Moment) (r : Request) (m : Monitor) : Monitor := { m with requests := m.requests ++ [(now, r)] }

def onStep (i : Nat) (f : StepStatus → Except Fault StepStatus) (m : Monitor) : Except Halt Monitor :=
  match m.session.updateStep i f with
  | .ok session => .ok { m with session }
  | .error e => .error ⟨m, e⟩

def setState (now : Moment) (new : SessionState) (m : Monitor) : Except Halt Monitor :=
  match m.session.setState now.wall new with
  | .ok session => .ok { m with session }
  | .error e => .error ⟨m, e⟩

/-- Fails the session as soon as a stop is seen. -/
def markStopped (now : Moment) (m : Monitor) : Except Halt Monitor :=
  if m.session.isTerminal then .ok m else m.setState now .failed

def progressData (m : Monitor) : Json.Members := [("progress", .num m.session.progress)]

def stepFinishedData (st : StepStatus) : Json.Members :=
  [("step_id", .str st.stepId), ("ordinal", .ofNat st.ordinal), ("status", .str st.state.name),
    ("retry_count", .ofNat st.retryCount), ("fallback_used", .ofOption .ofNat st.fallbackUsed),
    ("duration_ms", .ofOption .int st.durationMs), ("error", .ofOption .str st.error)]

/-- Counts a step that has been settled and tells of it. -/
def announceStep (now : Moment) (i : Nat) (m : Monitor) : Monitor :=
  match m.session.steps[i]? with
  | none => m
  | some st =>
    let m := { m with session := m.session.recordOutcome st }
    let m := m.emit now .stepFinished (stepFinishedData st)
    m.emit now .progress m.progressData

def finalizeStep (now : Moment) (i : Nat) (m : Monitor) : Except Halt Monitor :=
  (m.onStep i (StepStatus.finalize now.wall)).map (announceStep now i)

end Monitor

end BrowserPilot
