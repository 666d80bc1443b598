import BrowserPilot.Cli.Basic
import BrowserPilot.Script.Compile

/-!
# Listing a script

The steps that a script compiles to, as a table with the warnings after it, or
as data.
-/

namespace BrowserPilot.Cli

def stepRow (s : Step) : List String :=
  [toString s.ordinal, s.kind.name, Json.render .listed (.obj s.action.parameters), toString s.policy.retries,
    if s.policy.ignoresErrors then "yes" else ""]

def stepTable (name : String) (steps : List Step) : Console.Table where
  title := "Steps — " ++ name
  columns := [{ name := "#", alignment := .right }, { name := "Type" }, { name := "Params" },
    { name := "Retries", alignment := .right }, { name := "Ignore errors" }]
  rows := steps.map stepRow

def sayWarnings : List Script.Warning → Report Unit
  | [] => pure ()
  | w :: rest => do
    Report.say ("[yellow]⚠[/yellow] line " ++ toString w.lineNumber ++ ": " ++ w.message)
    sayWarnings rest

def compileScript {W : Type} (s : Surroundings W) (path : Path) (asJson : Bool) : Report Unit := do
  let text ← script s path
  let settings ← settings s
  match Script.compileWith settings.compiler.retries text with
  | .error e => Report.stop (.crash (.foreign "ValueError" e.message))
  | .ok c =>
    if asJson then Report.value c.toJson
    else
      Report.table (stepTable path.name c.steps)
      sayWarnings c.warnings

end BrowserPilot.Cli
