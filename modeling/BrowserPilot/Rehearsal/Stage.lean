import BrowserPilot.Monitor.Signal
import BrowserPilot.Rehearsal.Performance

/-!
# Running a monitor on a clock

A stage plays a run on a clock of its own. What the monitor asks for is done by
a troupe, which says beforehand how each piece of work goes. Nothing waits:
time jumps to the next thing that happens, and what can happen at a moment
happens before time goes on. A run is stuck when everything waits and nothing
will come.
-/

namespace BrowserPilot.Rehearsal

/-- A call made on a monitor while it runs. -/
inductive Interruption where
  | control (c : ControlCall)
  | stop
  deriving DecidableEq, Repr

def Interruption.signal : Interruption → Signal
  | .control c => .control c
  | .stop => .stop

structure Turn (S : Type) where
  calls : List Interruption := []
  /-- When it ends and how; nothing when it never ends. -/
  ending : Option (Binary64 × Outcome)
  after : S
  /-- The scene when it is cut short at a time. -/
  cutAt : Binary64 → S

structure Troupe (S : Type) where
  perform : Binary64 → Action → S → Turn S
  close : Binary64 → S → Turn S
  delay : Binary64 → Binary64 → S → S

inductive Command where
  | run
  | fail (reason : String)

structure Stage (S : Type) where
  time : Binary64 := .zero false
  monitor : Monitor
  scene : S
  interruptions : List (Binary64 × Interruption) := []
  /-- How many requests of the monitor have been taken up. -/
  taken : Nat := 0
  running : Option (Turn S) := none
  timer : Option Binary64 := none

namespace Stage

variable {S : Type}

def now (s : Stage S) : Moment := .ofSeconds s.time

def tell (signal : Signal) (s : Stage S) : Stage S := { s with monitor := s.monitor.receive s.now signal }

def cut (s : Stage S) : Stage S :=
  match s.running with
  | some turn => { s with scene := turn.cutAt s.time, running := none, timer := none }
  | none => { s with timer := none }

/-- The scene when nothing more comes; what is under way has gone as far as it gets. -/
def stalled (s : Stage S) : S :=
  match s.running with
  | some turn => turn.after
  | none => s.scene

def takeUp (troupe : Troupe S) (r : Request) (s : Stage S) : Stage S :=
  match r with
  | .perform a =>
    let turn := troupe.perform s.time a s.scene
    turn.calls.foldl (fun s c => s.tell c.signal) { s with timer := none, running := some turn }
  | .sleep seconds =>
    { s with scene := troupe.delay s.time seconds.value s.scene, timer := some (later s.time seconds.value) }
  | .grace seconds => { s with timer := some (later s.time seconds.value) }
  | .closeBrowser =>
    -- what is still running is cut short first
    let s := s.cut
    { s with running := some (troupe.close s.time s.scene) }

def takeUpAll (troupe : Troupe S) (s : Stage S) : Stage S :=
  (s.monitor.requests.drop s.taken).foldl (fun s r => { s with taken := s.taken + 1 }.takeUp troupe r.2) s

/-- Gives the monitor its turn, if it can use one. -/
def turn (troupe : Troupe S) (s : Stage S) : Stage S :=
  if s.monitor.isReady then (s.tell .turn).takeUpAll troupe else s

inductive Coming (S : Type) where
  | workEnd (after : S) (o : Outcome)
  | timerEnd
  | interruption (c : Interruption) (rest : List (Binary64 × Interruption))

/-- The earlier of two things; of two at the same time the first. -/
def earlier (a b : Option (Binary64 × Coming S)) : Option (Binary64 × Coming S) :=
  match a, b with
  | none, b => b
  | a, none => a
  | some a, some b => if b.1.lt a.1 then some b else some a

def coming (s : Stage S) : Option (Binary64 × Coming S) :=
  let work := s.running.bind fun turn => turn.ending.map fun e => (e.1, Coming.workEnd turn.after e.2)
  let timer := s.timer.map fun t => (t, Coming.timerEnd)
  let interruption := match s.interruptions with
    | (t, c) :: rest => some (t, Coming.interruption c rest)
    | [] => none
  -- at the same time work ends before a delay does, and calls on the monitor come last
  earlier (earlier work timer) interruption

/-- Lets the next thing happen. The end of the work is the end of a primitive,
or of closing the browser. -/
def happen (t : Binary64) (c : Coming S) (s : Stage S) : Stage S :=
  -- what was due at an earlier time comes now
  let s := { s with time := s.time.greatest t }
  match c with
  | .workEnd after o =>
    let s := { s with running := none, scene := after }
    match s.monitor.phase with
    | .closing => s.tell .closed
    | _ => s.tell (.outcome o)
  | .timerEnd => { s with timer := none }.tell .timeUp
  | .interruption c rest => { s with interruptions := rest }.tell c.signal

/-- Goes on until the run is over or nothing more comes; tells whether it is
over. What happens at the moment itself comes before the turn of the monitor. -/
def advance (troupe : Troupe S) : Nat → Stage S → Stage S × Bool
  | 0, s => (s, s.monitor.isOver)
  | fuel + 1, s =>
    if s.monitor.isOver then (s, true)
    else
      match s.coming with
      | none => if s.monitor.isReady then advance troupe fuel (s.turn troupe) else (s, false)
      | some (t, c) =>
        if s.monitor.isReady && s.time.lt t then advance troupe fuel (s.turn troupe)
        else advance troupe fuel (s.happen t c)

/-- Enough for every attempt at every step and for every call. -/
def fuel (s : Stage S) : Nat :=
  let attempts := s.monitor.plan.steps.foldl (fun n step => n + (step.policy.retries + 1)) 0
  8 * attempts + 4 * s.interruptions.length + 32

def command (troupe : Troupe S) (c : Command) (s : Stage S) : Stage S × Bool :=
  let s := (match c with
    | .run => s.tell .start
    | .fail reason => s.tell (.fail reason)).takeUpAll troupe
  s.advance troupe s.fuel

/-- Plays commands one after the other; gives the state of the session after
each, or nothing when one is stuck. -/
def play (troupe : Troupe S) : List Command → Stage S → Stage S × Option (List SessionState)
  | [], s => (s, some [])
  | c :: rest, s =>
    match s.command troupe c with
    | (s, true) =>
      let (t, states) := play troupe rest s
      (t, states.map (s.monitor.session.state :: ·))
    | (s, false) => (s, none)

end Stage

end BrowserPilot.Rehearsal
