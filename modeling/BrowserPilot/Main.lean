import BrowserPilot.Cli.Perform
import BrowserPilot.Rehearsal.Screenplay
import BrowserPilot.Settings.Bundled

/-!
# The program

Reads the surroundings of a command line, carries it out and writes what it
says. Sessions are rehearsed: the browser answers as usual, on a clock of its
own.
-/

namespace BrowserPilot

def fileBytes (path : String) : IO (Option (List UInt8)) := do
  try
    return some (← IO.FS.readBinFile path).toList
  catch _ => return none

def currentEnvironment : IO Environment :=
  Environment.names.filterMapM fun name => do return (← IO.getEnv name).map fun value => (name, value)

def documentsIn (dir : String) (names : List String) : IO (List (String × String)) :=
  names.filterMapM fun name => do
    match ← fileBytes (dir ++ "/" ++ name) with
    | some bytes => return (Script.ofBytes bytes).toOption.map fun text => (name, text)
    | none => return none

def documentNames (env : Environment) : List String :=
  let named := (env.lookup Environment.environmentName).getD "local"
  ["default", named, "local"].map fun n => "settings." ++ n ++ ".toml"

def scriptsOf (args : List String) : List Path :=
  match Cli.Command.parse args with
  | .ok (.compile path _) => [path]
  | .ok (.run c) => c.scripts
  | _ => []

def surroundings (args : List String) : IO (Cli.Surroundings Rehearsal.Played) := do
  let environment ← currentEnvironment
  let root := (← IO.currentDir).toString
  let documents ← documentsIn (root ++ "/config") (documentNames environment)
  let scripts ← (scriptsOf args).filterMapM fun p => do return (← fileBytes p.text).map fun bytes => (p, bytes)
  let s : Cli.Surroundings Rehearsal.Played :=
    { environment, projectRoot := .ofString root
      documents := fun name => if documents.isEmpty then Settings.bundled name else documents.lookup name
      script := fun p => scripts.lookup p
      isFile := fun _ => false
      writeFault := fun _ => none
      respond := Rehearsal.Played.respond
      world := fun _ => { screenplay := {} } }
  match Cli.settings? s with
  | .error _ => return s
  | .ok settings =>
    let dir := settings.browser.videoDirectory
    let found ← fileBytes dir
    return { s with isFile := fun path => path == dir && found.isSome }

def report (ended : Cli.Ended) (t : Cli.Transcript) : IO UInt32 := do
  for line in t.events do IO.eprintln line
  IO.print t.output
  match ended with
  | .usage f => IO.eprintln f.message
  | .stopped (.crash f) => IO.eprintln (f.kind ++ ": " ++ f.message)
  | _ => pure ()
  match t.file with
  | some (path, text) => IO.FS.writeFile path.text text
  | none => pure ()
  return ended.code.toUInt32

end BrowserPilot

def main (args : List String) : IO UInt32 := do
  let (ended, t) := BrowserPilot.Cli.performAll (← BrowserPilot.surroundings args) args
  BrowserPilot.report ended t
