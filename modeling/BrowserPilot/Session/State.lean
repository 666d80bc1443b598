/-!
# States of steps and sessions

Both move along fixed edges. A failed step may run again, which is how it is
retried; a session that is completed or failed stays so.
-/

namespace BrowserPilot

inductive StepState where
  | pending | running | success | failed | skipped
  deriving DecidableEq, Repr

namespace StepState

def all : List StepState := [pending, running, success, failed, skipped]

def name : StepState → String
  | pending => "pending"
  | running => "running"
  | success => "success"
  | failed => "failed"
  | skipped => "skipped"

def ofName? (s : String) : Option StepState := all.find? fun k => k.name == s

def canBecome : StepState → StepState → Bool
  | pending, running | pending, failed => true
  | running, success | running, failed | running, skipped => true
  | failed, running => true
  | _, _ => false

/-- A state in which a step may be left. -/
def isTerminal : StepState → Bool
  | success | skipped | failed => true
  | pending | running => false

/-- Whether the step did its work or was allowed not to. -/
def hasPassed : StepState → Bool
  | success | skipped => true
  | _ => false

end StepState

inductive SessionState where
  | running | paused | completed | failed
  deriving DecidableEq, Repr

namespace SessionState

def all : List SessionState := [running, paused, completed, failed]

def name : SessionState → String
  | running => "running"
  | paused => "paused"
  | completed => "completed"
  | failed => "failed"

def ofName? (s : String) : Option SessionState := all.find? fun k => k.name == s

def canBecome : SessionState → SessionState → Bool
  | running, paused | running, completed | running, failed => true
  | paused, running | paused, failed => true
  | _, _ => false

def isTerminal : SessionState → Bool
  | completed | failed => true
  | running | paused => false

end SessionState

end BrowserPilot
