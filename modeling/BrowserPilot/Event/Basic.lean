import BrowserPilot.Clock
import BrowserPilot.Json.Printer
import BrowserPilot.Schema.Reader

/-!
# Events

What a session tells its observers while it runs. An event is stored as one
line of text: no line break can occur inside, since those are escaped.
-/

namespace BrowserPilot

inductive EventKind where
  | sessionStarted | sessionPaused | sessionResumed | sessionStopping | sessionFinished
  | stepStarted | stepRetrying | stepFinished
  | log | progress | error
  deriving DecidableEq, Repr

namespace EventKind

def all : List EventKind :=
  [sessionStarted, sessionPaused, sessionResumed, sessionStopping, sessionFinished, stepStarted, stepRetrying,
    stepFinished, log, progress, error]

def name : EventKind → String
  | sessionStarted => "session_started"
  | sessionPaused => "session_paused"
  | sessionResumed => "session_resumed"
  | sessionStopping => "session_stopping"
  | sessionFinished => "session_finished"
  | stepStarted => "step_started"
  | stepRetrying => "step_retrying"
  | stepFinished => "step_finished"
  | log => "log"
  | progress => "progress"
  | error => "error"

/-- The kind of a name; a name that is none is a log entry. -/
def ofName (s : String) : EventKind := (all.find? fun k => k.name == s).getD log

end EventKind

structure Event where
  kind : EventKind
  timestamp : String
  sessionId : String := ""
  data : Json.Members := []
  deriving Repr

namespace Event

def toJson (e : Event) : Json :=
  .obj [("event_type", .str e.kind.name), ("timestamp", .str e.timestamp), ("session_id", .str e.sessionId),
    ("data", .obj e.data)]

def line (e : Event) : String := Json.render .compact e.toJson

open Schema

/-- Reads an event; one without a time is of the given instant. -/
def read (now : Instant) : Reader Event :=
  record "Event" fun m =>
    (((Checked.ap ((required "event_type" (name (EventKind.all.map fun k => (k.name, k))) m).map Event.mk)
      (optional "timestamp" now.withOffset text m)).ap (optional "session_id" "" text m)).ap
      (optional "data" [] object m))

end Event

end BrowserPilot
