import BrowserPilot.Browser.Primitives
import BrowserPilot.Rehearsal.Stage
import BrowserPilot.Script.Compile

/-!
# Running a script

A run compiles a script, starts a browser, takes the steps through it and
closes it. A browser that cannot be started fails the session without running
a step.
-/

namespace BrowserPilot.Rehearsal

variable {W : Type}

structure RunOptions where
  taskName : String := "task"
  settings : Settings
  seed : Int := 0
  profile : Option Profile := none
  crash : Option Fault := none
  controls : List (Binary64 × ControlCall) := []

inductive RunFault where
  | compile (e : Script.CompileError)
  | pace (f : Fault)
  | build (f : Fault)
  | refused (r : RetryStrategy.Refusal)
  | sequence (f : Step.SequenceFault)

namespace RunFault

def kind : RunFault → String
  | compile _ | refused _ | sequence _ => "ValueError"
  | pace f | build f => f.kind

def message : RunFault → String
  | compile e => e.message
  | refused r => r.message
  | sequence f => f.message
  | pace f | build f => f.message

/-- Whether the run had come as far as building a browser. -/
def reachesBrowser : RunFault → Bool
  | compile _ | pace _ => false
  | build _ | refused _ | sequence _ => true

end RunFault

/-! ## The troupe of a browser -/

def turnOf {α : Type} (respond : Responder W) (work : Work α) (t : Binary64) (s : Scene W) (result : α → Result) :
    Turn (Scene W) :=
  let p := s.play respond work t
  { ending := p.ending.map fun e => (e.time, match e.result with
      | .ok a => .finished (result a)
      | .error f => .raised f)
    after := s.after p
    cutAt := s.cutAt p }

def browserTroupe (respond : Responder W) : Troupe (Scene W) where
  perform t a s := turnOf respond (Browser.perform a) t s id
  close t s := turnOf respond Browser.close t s fun _ => .nothing
  delay t seconds s := { s with calls := s.calls ++ [(t, .sleep seconds)] }

/-! ## Runs -/

structure RunReport (W : Type) where
  monitor : Monitor
  scene : Scene W
  /-- When the run ended; nothing when it is stuck. -/
  ended : Option Binary64

/-- The fault of a run that could not even be wound up. -/
def RunReport.fault? (r : RunReport W) : Option Fault :=
  match r.monitor.phase with
  | .raised f => some f
  | _ => none

/-- The interruptions that come before a time; all when it never comes. -/
def interruptionsBefore (t : Option Binary64) (xs : List (Binary64 × Interruption)) :
    List (Binary64 × Interruption) × List (Binary64 × Interruption) :=
  match t with
  | none => (xs, [])
  | some t => (xs.takeWhile fun x => x.1.lt t, xs.dropWhile fun x => x.1.lt t)

def launchReason (f : Fault) : String := "session init failed: " ++ f.message

/-- Plays a command to its end, and closes the browser after it. -/
def playOut (respond : Responder W) (c : Command) (s : Stage (Scene W)) : RunReport W :=
  match s.command (browserTroupe respond) c with
  | (s, false) => ⟨s.monitor, s.stalled, none⟩
  | (s, true) =>
    let p := s.scene.play respond Browser.close s.time
    ⟨s.monitor, s.scene.after p, p.ending.map (·.time)⟩

def playRun (respond : Responder W) (profile : Profile) (s : Stage (Scene W)) : RunReport W :=
  let p := s.scene.play respond (Browser.launch (some profile)) s.time
  let (early, rest) := interruptionsBefore (p.ending.map (·.time)) s.interruptions
  let s := early.foldl (fun s c => { s with time := s.time.greatest c.1 }.tell c.2.signal) s
  let scene := s.scene.after p
  match p.ending with
  | none => ⟨s.monitor, scene, none⟩
  | some e =>
    let s := { s with time := e.time, scene, interruptions := rest }
    match e.result with
    | .ok _ => playOut respond .run s
    | .error f =>
      -- the browser is closed here, so that there is nothing left to close in the end
      let q := s.scene.play respond Browser.close s.time
      let s := { s with scene := s.scene.after q }
      playOut respond (.fail (launchReason f)) s

def setUp (o : RunOptions) (script : String) (t : Binary64) (world : W) :
    Except RunFault (Profile × Stage (Scene W)) := do
  let compiled ← (Script.compileWith o.settings.compiler.retries script).mapError .compile
  -- a given profile leaves the generator as the seed has made it
  let (profile, random) := match o.profile with
    | some p => (p, Twister.ofSeed o.seed)
    | none => ProfilePool.all.draw (Twister.ofSeed o.seed)
  let pacer ← (Pacer.ofScale o.settings.timing.scale).mapError .pace
  match o.crash with
  | some f => .error (.build f)
  | none => do
    let strategy ← o.settings.retry.strategy?.mapError .refused
    let plan : Plan :=
      { steps := compiled.steps
        delay := fun attempt f => (strategy.delay attempt (some (.step f))).map .part
        abortsOnFailure := o.settings.monitor.abortsOnFailure
        grace := .part o.settings.monitor.grace }
    let monitor ← (Monitor.create (.ofSeconds t) "uuid" o.taskName plan {}).mapError .sequence
    let browser := Browser.create o.settings o.settings.stealth.level.countermeasures pacer random
    .ok (profile, { time := t, monitor, scene := { browser, world },
                    interruptions := o.controls.map fun c => (c.1, .control c.2) })

def runScript (respond : Responder W) (o : RunOptions) (script : String) (t : Binary64) (world : W) :
    Except RunFault (RunReport W) :=
  (setUp o script t world).map fun r => playRun respond r.1 r.2

end BrowserPilot.Rehearsal
