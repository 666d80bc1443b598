import BrowserPilot.Event.Basic
import BrowserPilot.Fault

/-!
# The event bus

A bus hands every event to all registered sinks in the order of registration
and keeps a snapshot of the latest state for observers that come late. A sink
that fails leaves a log record and does not keep the others from the event.
-/

namespace BrowserPilot

/-! ## Sinks -/

inductive SinkKind where
  | memory
  | stream
  | logger
  | failing (kind message : String)
  deriving DecidableEq, Repr

structure Sink where
  kind : SinkKind
  events : List Event := []
  written : String := ""

inductive LogLevel where
  | debug | warning
  deriving DecidableEq, Repr

structure LogRecord where
  level : LogLevel
  message : String
  deriving DecidableEq, Repr

namespace Sink

/-- The most characters of an event's data in the log. -/
def loggedLength : Nat := 200

def logLine (e : Event) : String :=
  "[" ++ (if e.sessionId.isEmpty then "?" else e.sessionId) ++ "] " ++ e.kind.name ++ ": " ++
    String.ofList ((Json.write .spaced 0 (.obj e.data)).take loggedLength)

def handle (e : Event) (s : Sink) : Sink × List LogRecord :=
  match s.kind with
  | .memory => ({ s with events := s.events ++ [e] }, [])
  | .stream => ({ s with written := s.written ++ e.line ++ "\n" }, [])
  | .logger => (s, [⟨.debug, logLine e⟩])
  | .failing kind message => (s, [⟨.warning, "EventBus sink error (" ++ kind ++ "): " ++ message⟩])

def clear (s : Sink) : Sink := { s with events := [] }

def ofKind (k : EventKind) (s : Sink) : List Event := s.events.filter fun e => e.kind == k

end Sink

/-! ## Snapshots -/

/-- The latest state an event told of. State and step are kept as the event
gave them. -/
structure Snapshot where
  state : Json := .str ""
  stepId : Json := .str ""
  progress : Binary64 := .zero false
  /-- Seconds on the clock when the session started. -/
  startedAt : Binary64

namespace Snapshot

def foreignName : Json → String
  | .null => "NoneType"
  | .arr _ => "list"
  | .obj _ => "dict"
  | .bool _ => "bool"
  | .int _ => "int"
  | .num _ => "float"
  | .str _ => "str"

def asciiDigits (s : String) : String :=
  String.ofList (s.toList.map fun c => match Text.digitValue? c with | some n => Char.ofNat (48 + n) | none => c)

def progressOf (v : Json) : Except Fault Binary64 :=
  match v with
  | .num x => .ok x
  | .bool b => .ok (.ofNat (if b then 1 else 0))
  | .int n =>
    match Binary64.ofInt n with
    | .infinite _ => .error (.foreign "OverflowError" "int too large to convert to float")
    | x => .ok x
  | .str s =>
    match Schema.numberOfText Schema.isNarrowBlank (asciiDigits s) with
    | some x => .ok x
    | none => .error (.foreign "ValueError" ("could not convert string to float: " ++ Json.literalText s))
  | v => .error (.foreign "TypeError"
      ("float() argument must be a string or a real number, not '" ++ foreignName v ++ "'"))

def update (now : Binary64) (k : EventKind) (data : Json.Members) (s : Snapshot) : Except Fault Snapshot :=
  match k with
  | .sessionStarted => .ok { s with state := .str "running", startedAt := now }
  | .sessionPaused => .ok { s with state := .str "paused" }
  | .sessionResumed => .ok { s with state := .str "running" }
  | .sessionFinished => .ok { s with state := (Json.get? data "status").getD (.str "") }
  | .stepStarted => .ok { s with stepId := (Json.get? data "step_id").getD (.str "") }
  | .progress =>
    match Json.get? data "progress" with
    -- a report that carries no number leaves the progress as it was
    | none => .ok s
    | some v => (progressOf v).map fun x => { s with progress := x }
  | _ => .ok s

/-- The snapshot as it is reported, with the time since the start to a tenth of a second. -/
def report (sessionId : String) (now : Binary64) (s : Snapshot) : Json.Members :=
  [("session_id", .str sessionId), ("state", s.state), ("step_id", s.stepId), ("progress", .num s.progress),
    ("uptime_sec", .num (now.sub s.startedAt).toTenth)]

end Snapshot

/-! ## The bus -/

structure Bus where
  sessionId : String
  snapshot : Snapshot
  sinks : List Sink := []
  /-- The places of the registered sinks, once for every registration. -/
  registered : List Nat := []

namespace Bus

def start (now : Binary64) (sessionId : String) : Bus := { sessionId, snapshot := { startedAt := now } }

/-- Makes a sink known without registering it; gives its place. -/
def newSink (kind : SinkKind) (b : Bus) : Bus × Nat := ({ b with sinks := b.sinks ++ [{ kind }] }, b.sinks.length)

def addSink (i : Nat) (b : Bus) : Bus := { b with registered := b.registered ++ [i] }

/-- Drops every registration of a sink. -/
def removeSink (i : Nat) (b : Bus) : Bus := { b with registered := b.registered.filter (· != i) }

def sinkCount (b : Bus) : Nat := b.registered.length

def updateSink (i : Nat) (f : Sink → Sink) (b : Bus) : Bus := { b with sinks := b.sinks.modify i f }

def deliver (e : Event) : List Nat → List Sink → List Sink × List LogRecord
  | [], sinks => (sinks, [])
  | i :: rest, sinks =>
    match sinks[i]? with
    | none => deliver e rest sinks
    | some s =>
      let (s, logs) := s.handle e
      -- a sink that is registered again finds what it has taken already
      let (sinks, more) := deliver e rest (sinks.set i s)
      (sinks, logs ++ more)

/-- Emits an event. A payload the snapshot cannot take is an error, and then no
sink sees the event. -/
def emit (now : Moment) (kind : EventKind) (data : Json.Members) (b : Bus) : Except Fault (Bus × List LogRecord) :=
  (b.snapshot.update now.seconds kind data).map fun snapshot =>
    let e : Event := ⟨kind, now.wall.withOffset, b.sessionId, data⟩
    let (sinks, logs) := deliver e b.registered b.sinks
    ({ b with snapshot, sinks }, logs)

def report (now : Binary64) (b : Bus) : Json.Members := b.snapshot.report b.sessionId now

end Bus

end BrowserPilot
