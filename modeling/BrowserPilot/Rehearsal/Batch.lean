import BrowserPilot.Rehearsal.Run
import BrowserPilot.Session.Job

/-!
# Running many scripts

Jobs share a number of slots, and each takes one from the start of its run
until its browser is closed. A job waits for the first slot that is free, and
jobs start in their order. Jobs have nothing else in common, so a batch is the
list of their runs, each with the time it starts at.
-/

namespace BrowserPilot.Rehearsal

variable {W : Type}

structure Engagement (W : Type) where
  job : Job
  world : W
  crash : Option Fault := none

/-- A job that has run, or has started and is stuck. -/
structure JobReport where
  session : Session
  events : List Emission := []
  /-- The calls on its browser; nothing when the run did not come that far. -/
  calls : Option (List (Binary64 × Call))
  started : Binary64
  /-- When its slot is free again; nothing when it is stuck. -/
  finished : Option Binary64

/-! ## One job -/

def crashStep (now : Instant) (reason : String) (st : StepStatus) : Except Fault StepStatus :=
  ({ st with error := some reason }.transition now .failed).bind (StepStatus.finalize now)

def crashSteps (now : Instant) (reason : String) (s : Session) : Except Fault Session :=
  (List.range s.steps.length).foldlM (fun s i => do
    let s ← s.updateStep i (crashStep now reason)
    return match s.steps[i]? with
      | some st => s.recordOutcome st
      | none => s) s

/-- The session of a job that has failed outside its run: every step that can
be compiled has failed for this reason. -/
def crashedSession (now : Instant) (job : Job) (reason : String) : Session :=
  -- the retries that are usual, whatever the settings of the batch say
  let steps := match Script.compile 3 job.script with
    | .ok c => c.steps
    | .error _ => []
  let s := Session.ofSteps now "uuid" job.taskName steps
  match (crashSteps now reason s).bind (Session.setState now .failed) with
  | .ok s => s
  | .error _ => s

def crashReason (kind message : String) : String := "job crashed: " ++ kind ++ ": " ++ message

/-- Runs a job from a time on. A fault of the job ends in a failed session. -/
def runJob (respond : Responder W) (settings : Settings) (e : Engagement W) (t : Binary64) : JobReport :=
  let options : RunOptions :=
    { taskName := e.job.taskName, settings, seed := e.job.seed.getD 0, profile := e.job.profile, crash := e.crash }
  let crashed (t : Binary64) (kind message : String) : Session :=
    crashedSession (.ofSeconds t) e.job (crashReason kind message)
  match runScript respond options e.job.script t e.world with
  | .error f =>
    { session := crashed t f.kind f.message, calls := if f.reachesBrowser then some [] else none, started := t,
      finished := some t }
  | .ok r =>
    let session := match r.fault?, r.ended with
      | some f, some end_ => crashed end_ f.kind f.message
      | _, _ => r.monitor.session
    { session, events := r.monitor.events, calls := some r.scene.calls, started := t, finished := r.ended }

/-! ## The batch -/

def takeSlot : List Binary64 → Option (Binary64 × List Binary64)
  | [] => none
  | t :: rest =>
    match takeSlot rest with
    | none => some (t, rest)
    | some (u, others) => if u.lt t then some (u, t :: others) else some (t, rest)

/-- Runs jobs in slots that are free from given times on. Jobs for which no
slot ever is free are left out. -/
def runJobs (respond : Responder W) (settings : Settings) : List (Engagement W) → List Binary64 → List (JobReport)
  | [], _ => []
  | e :: rest, slots =>
    match takeSlot slots with
    | none => []
    | some (t, others) =>
      let r := runJob respond settings e t
      -- a job that is stuck never gives its slot back
      r :: runJobs respond settings rest (r.finished.toList ++ others)

def noSlots : Fault := .foreign "ValueError" "concurrency must be >= 1"

def runMany (respond : Responder W) (settings : Settings) (concurrency : Int) (jobs : List (Engagement W)) :
    Except Fault (List (JobReport)) :=
  if concurrency < 1 then .error noSlots
  else .ok (runJobs respond settings jobs (List.replicate (min concurrency.toNat jobs.length) (.zero false)))

/-- The sessions of a batch in which every job has come to its end. -/
def sessions? (jobs : List (Engagement W)) (reports : List (JobReport)) : Option (List Session) :=
  if reports.length = jobs.length && reports.all fun r => r.finished.isSome then some (reports.map (·.session))
  else none

end BrowserPilot.Rehearsal
