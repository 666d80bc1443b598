import BrowserPilot.Cli.Command
import BrowserPilot.Cli.Listing
import BrowserPilot.Cli.Overview
import BrowserPilot.Cli.Sessions

/-!
# Performing a command line

The arguments are read as a command, and the command is carried out.
-/

namespace BrowserPilot.Cli

variable {W : Type}

def versionLine : String := "stealthrun 0.1.0"

def helpLines : List String := [
  "Usage: stealthrun [--log-level LEVEL] COMMAND",
  "",
  "Commands:",
  "  compile SCRIPT           list the steps of a script",
  "  run SCRIPTS...           run scripts in sessions of their own",
  "  profile                  draw a profile",
  "  settings show|validate   show or check the settings"]

def perform (s : Surroundings W) : Command → Report Unit
  | .help => Report.emit (helpLines.map String.toList)
  | .version => Report.emit [versionLine.toList]
  | .compile path asJson => compileScript s path asJson
  | .run c => runScripts s c
  | .profile seed locale timezone => showProfile seed locale timezone
  | .showSettings => showSettings s
  | .checkSettings => checkSettings s

inductive Ended where
  | done
  | usage (f : UsageFault)
  | stopped (s : Stop)

namespace Ended

/-- The exit code: two when the arguments are wrong, one after any other failure. -/
def code : Ended → Nat
  | done => 0
  | usage _ => 2
  | stopped _ => 1

end Ended

def performAll (s : Surroundings W) (args : List String) : Ended × Transcript :=
  match Command.parse args with
  | .error f => (.usage f, {})
  | .ok c =>
    match (perform s c).run {} with
    | (.ok (), t) => (.done, t)
    | (.error stop, t) => (.stopped stop, t)

def Transcript.output (t : Transcript) : String :=
  String.ofList (t.lines.flatMap fun l => l ++ ['\n'])

end BrowserPilot.Cli
