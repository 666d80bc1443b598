import BrowserPilot.Monitor.Stepping

/-!
# Signals

Everything a monitor can be told, in any order. A signal that does not fit the
phase has no effect. That something it waits for has come and that the monitor
gets its turn are two signals, so that anything may happen in between.
-/

namespace BrowserPilot

inductive Signal where
  | start
  | fail (reason : String)
  | control (c : ControlCall)
  /-- A stop through the monitor, which marks the session at once. -/
  | stop
  | outcome (o : Outcome)
  /-- The delay or the time of grace is over. -/
  | timeUp
  | turn
  | closed

namespace Monitor

/-- A call on the token; one that ends a pause wakes a parked monitor. -/
def applyControl (c : ControlCall) (m : Monitor) : Monitor :=
  let control := m.control.apply c
  let phase := match m.phase with
    | .parked i woken => .parked i (woken || !control.paused)
    | p => p
  { m with control, phase }

/-- Starts a run at the first step that is not settled. -/
def start (now : Moment) (m : Monitor) : Monitor :=
  let m := m.emit now .sessionStarted
    [("task_name", .str m.session.taskName), ("total_steps", .ofNat m.session.totalSteps)]
  afterMove now (match m.session.firstPending? with
    | none => .ok (m, .leave)
    | some i => m.enterStep now i)

def failSession (now : Moment) (reason : String) (m : Monitor) : Monitor :=
  orRaised ((failRemaining now reason (m.emit now .error [("error", .str reason)])).bind (finish now))

def receive (now : Moment) (s : Signal) (m : Monitor) : Monitor :=
  match s, m.phase with
  | .start, .ready => if m.isFinished then m else m.start now
  | .fail reason, .ready => if m.isFinished then m else m.failSession now reason
  -- what comes from outside is taken in every phase
  | .control c, _ => m.applyControl c
  | .stop, _ => orRaised ((m.applyControl .stop).markStopped now)
  -- of several outcomes only the first one counts
  | .outcome o, .inFlight a none => { m with phase := .inFlight a (some o) }
  | .outcome o, .inGrace a none expired => { m with phase := .inGrace a (some o) expired }
  | .timeUp, .inGrace a o _ => { m with phase := .inGrace a o true }
  | .timeUp, .backingOff a _ => { m with phase := .backingOff a true }
  | .turn, _ => afterMove now (m.takeTurn now)
  | .closed, .closing => m.announceEnd now
  | _, _ => m

def receiveAll (m : Monitor) (signals : List (Moment × Signal)) : Monitor :=
  signals.foldl (fun m s => m.receive s.1 s.2) m

/-- Whether a turn would make the monitor move. -/
def isReady (m : Monitor) : Bool :=
  match m.phase with
  | .parked _ woken => woken
  | .inFlight _ o => o.isSome || m.control.stopped
  | .inGrace _ o expired => o.isSome || expired
  | .backingOff _ slept => slept || m.control.stopped
  | _ => false

def isOver (m : Monitor) : Bool :=
  match m.phase with
  | .finished | .raised _ => true
  | _ => false

end Monitor

end BrowserPilot
