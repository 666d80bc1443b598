import BrowserPilot.Cli.Basic
import BrowserPilot.Cli.Command
import BrowserPilot.Monitor.Broadcast
import BrowserPilot.Rehearsal.Batch

/-!
# Running scripts

The sessions of scripts, a table each, with the number of steps that passed.
-/

namespace BrowserPilot.Cli

open Rehearsal

variable {W : Type}

def style : StepState → String
  | .success => "green"
  | .skipped => "yellow"
  | .failed => "red"
  | .pending => "dim"
  | .running => "cyan"

def styled (s : StepState) : String := "[" ++ style s ++ "]" ++ s.name ++ "[/" ++ style s ++ "]"

def statusRow (s : StepStatus) : List String :=
  [toString s.ordinal, s.kind.name, styled s.state, toString s.retryCount,
    (s.durationMs.map fun ms => toString ms ++ "ms").getD "", s.error.getD ""]

def sessionTable (s : Session) : Console.Table where
  title := s.taskName ++ " — " ++ s.state.name
  columns := [{ name := "#", alignment := .right }, { name := "Type" }, { name := "Status" },
    { name := "Retries", alignment := .right }, { name := "Duration", alignment := .right },
    { name := "Error", maxWidth := some 60 }]
  rows := s.steps.map statusRow

def showSessions : List Session → Report Unit
  | [] => pure ()
  | s :: rest => do
    Report.table (sessionTable s)
    Report.say ("  " ++ toString s.completedSteps ++ "/" ++ toString s.totalSteps ++ " completed, " ++
      toString s.failedSteps ++ " failed")
    showSessions rest

/-! ## Events -/

def toldEvents (r : JobReport) : List (Binary64 × String) :=
  let (bus, i) := (Bus.start (.zero false) r.session.id).newSink .memory
  let told := r.events.foldl Bus.hear (bus.addSink i)
  (r.events.map fun e => e.at_.seconds).zip ((told.sinks.flatMap (·.events)).map Event.line)

/-- The events of a batch in the order of their times; of events at the same
time those of an earlier job come first. -/
def eventLines (reports : List JobReport) : List String :=
  ((reports.flatMap toldEvents).mergeSort fun a b => a.1.le b.1).map (·.2)

/-! ## The command -/

/-- The jobs of scripts. Each has a seed of its own, counted on from the given one. -/
def engagements (s : Surroundings W) (seed : Option Int) : Nat → List Path → Report (List (Engagement W))
  | _, [] => pure []
  | i, p :: rest => do
    let text ← script s p
    let job : Job := { script := text, taskName := p.stem, seed := seed.map (· + i) }
    let more ← engagements s seed (i + 1) rest
    pure ({ job, world := s.world i } :: more)

/-- The record of sessions: of a single one by itself, of several as a list. -/
def sessionRecord : List Session → String
  | [s] => s.document 2
  | sessions => Json.render .filed (.arr (sessions.map Session.toJson))

def writeRecord (s : Surroundings W) (path : Path) (sessions : List Session) : Report Unit :=
  match s.writeFault path with
  | some f => Report.stop (.crash f)
  | none => do
    modify fun t => { t with file := some (path, sessionRecord sessions) }
    Report.say ("Session saved to: " ++ path.text)

def showWindow (settings : Settings) : Settings := { settings with browser := { settings.browser with headless := false } }

def runScripts (s : Surroundings W) (c : RunCommand) : Report Unit := do
  let settings ← settings s
  let settings := if c.headful then showWindow settings else settings
  let jobs ← engagements s c.seed 0 c.scripts
  Report.panel "stealthrun" ("[bold]Running:[/bold] " ++ ", ".intercalate (c.scripts.map Path.name))
  match runMany s.respond settings c.concurrency jobs with
  | .error f => Report.stop (.crash f)
  | .ok reports =>
    if c.events then modify fun t => { t with events := eventLines reports }
    match sessions? jobs reports with
    | none => Report.stop .stuck
    | some sessions =>
      showSessions sessions
      match c.output with
      | some path => writeRecord s path sessions
      | none => pure ()
      if sessions.any fun s => s.state ≠ .completed then Report.stop .failed

end BrowserPilot.Cli
