import BrowserPilot.Clock
import BrowserPilot.Fault
import BrowserPilot.Session.State
import BrowserPilot.Step.Basic

/-!
# The state of one step

What a run records about a step: its state and times, the attempts it took and
what came of them. Once final it takes no further transition and no log line.
-/

namespace BrowserPilot

structure StepStatus where
  stepId : String
  ordinal : Nat
  kind : ActionKind
  state : StepState := .pending
  startedAt : Option Instant := none
  endedAt : Option Instant := none
  durationMs : Option Int := none
  error : Option String := none
  retryCount : Nat := 0
  fallbackUsed : Option Nat := none
  logs : List String := []
  output : Json := .null
  screenshot : Option String := none
  video : Option String := none
  final : Bool := false
  deriving Repr

namespace StepStatus

def ofStep (s : Step) : StepStatus := { stepId := s.id, ordinal := s.ordinal, kind := s.kind }

def isTerminal (s : StepStatus) : Bool := s.final && s.state.isTerminal

/-- Moves along an edge of the step machine. The first time a step runs is its start. -/
def transition (now : Instant) (new : StepState) (s : StepStatus) : Except Fault StepStatus :=
  if s.final || !s.state.canBecome new then .error (.illegalTransition s.state.name new.name)
  else
    let startedAt := if new = .running && s.startedAt.isNone then some now else s.startedAt
    .ok { s with startedAt, state := new }

def log (line : String) (s : StepStatus) : Except Fault StepStatus :=
  if s.final then .error (.illegalTransition s.state.name "log") else .ok { s with logs := s.logs ++ [line] }

/-- Settles a step in its terminal state and records its times. -/
def finalize (now : Instant) (s : StepStatus) : Except Fault StepStatus :=
  if s.state.isTerminal then
    -- a step that never ran has an end and no duration
    let durationMs := match s.startedAt with
      | some start => some (start.millisecondsTo now)
      | none => s.durationMs
    .ok { s with endedAt := some now, durationMs, final := true }
  else .error (.illegalTransition s.state.name "final")

def toJson (s : StepStatus) : Json :=
  .obj [("step_id", .str s.stepId), ("ordinal", .ofNat s.ordinal), ("type", .str s.kind.name),
    ("status", .str s.state.name), ("started_at", .ofOption (fun i => .str i.zulu) s.startedAt),
    ("ended_at", .ofOption (fun i => .str i.zulu) s.endedAt), ("duration_ms", .ofOption .int s.durationMs),
    ("error", .ofOption .str s.error), ("retry_count", .ofNat s.retryCount),
    ("fallback_used", .ofOption .ofNat s.fallbackUsed), ("logs", .arr (s.logs.map .str)), ("output", s.output),
    ("screenshot", .ofOption .str s.screenshot), ("video", .ofOption .str s.video), ("final", .bool s.final)]

end StepStatus

end BrowserPilot
