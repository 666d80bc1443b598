import BrowserPilot.Json.Printer
import BrowserPilot.Session.StepStatus

/-!
# Sessions

A session is the record of one run: the state of every step and how many of
them are completed and failed.
-/

namespace BrowserPilot

structure Session where
  id : String
  taskName : String
  startedAt : Instant
  endedAt : Option Instant := none
  state : SessionState := .running
  steps : List StepStatus := []
  totalSteps : Nat := 0
  completedSteps : Nat := 0
  failedSteps : Nat := 0
  deriving Repr

namespace Session

def ofSteps (now : Instant) (id taskName : String) (steps : List Step) : Session :=
  { id, taskName, startedAt := now, steps := steps.map StepStatus.ofStep, totalSteps := steps.length }

def isTerminal (s : Session) : Bool := s.state.isTerminal

def progress (s : Session) : Binary64 :=
  if s.totalSteps = 0 then .ofNat (if s.isTerminal then 100 else 0)
  else (Binary64.ofRatio (s.completedSteps + s.failedSteps) s.totalSteps).mul (.ofNat 100)

def firstPending? (s : Session) : Option Nat := s.steps.findIdx? fun st => !st.isTerminal

/-- Moves along an edge of the session machine; a terminal state is the end. -/
def setState (now : Instant) (new : SessionState) (s : Session) : Except Fault Session :=
  if s.state.canBecome new then
    .ok { s with state := new, endedAt := if new.isTerminal then some now else s.endedAt }
  else .error (.illegalTransition s.state.name new.name)

def recordOutcome (st : StepStatus) (s : Session) : Session :=
  if st.state = .failed then { s with failedSteps := s.failedSteps + 1 }
  else { s with completedSteps := s.completedSteps + 1 }

def updateStep (i : Nat) (f : StepStatus → Except Fault StepStatus) (s : Session) : Except Fault Session :=
  match s.steps[i]? with
  | none => .ok s
  | some st => (f st).map fun st => { s with steps := s.steps.set i st }

def toJson (s : Session) : Json :=
  .obj [("id", .str s.id), ("task_name", .str s.taskName), ("started_at", .str s.startedAt.zulu),
    ("ended_at", .ofOption (fun i => .str i.zulu) s.endedAt), ("status", .str s.state.name),
    ("steps", .arr (s.steps.map StepStatus.toJson)), ("total_steps", .ofNat s.totalSteps),
    ("completed_steps", .ofNat s.completedSteps), ("failed_steps", .ofNat s.failedSteps)]

def document (indent : Nat) (s : Session) : String := Json.render (.indented indent) s.toJson

end Session

end BrowserPilot
