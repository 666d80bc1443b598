import BrowserPilot.Browser.ProfilePool
import BrowserPilot.Cli.Basic
import BrowserPilot.Settings.Issues

/-!
# Profiles and settings on the console

A profile drawn from the pool, the settings as data, and what is right or
wrong with them.
-/

namespace BrowserPilot.Cli

variable {W : Type}

/-! ## Profiles -/

def profileJson (p : Profile) : Json :=
  match p.toJson with
  | .obj members =>
    .obj (members ++ [("languages", .arr (p.languages.map .str)), ("platform", .str p.platform)])
  | v => v

def showProfile (seed : Option Int) (locale timezone : Option String) : Report Unit :=
  match (ProfilePool.all.generate (.parts { locale, timezone }) (Twister.ofSeed (seed.getD 0))).1 with
  | .ok p => Report.value (profileJson p)
  | .error problems => Report.stop (.crash (.foreign "ValidationError" (Schema.Problem.report problems)))

/-! ## Settings -/

def showSettings (s : Surroundings W) : Report Unit := do
  Report.value (← settings s).toJson

def refusalHeadline (f : Settings.LoadFault) : String :=
  match f with
  | .invalid problems =>
    toString problems.length ++ " validation error" ++ (if problems.length = 1 then "" else "s") ++ " for Settings"
  | f => f.message

def failure (what : String) : String := "[red]✗[/red] Settings validation failed: " ++ what

def sayAll : List String → Report Unit
  | [] => pure ()
  | line :: rest => do
    Report.say line
    sayAll rest

def countermeasureNames (c : Countermeasures) : List String :=
  match c.toJson with
  | .obj members => members.filterMap fun kv => match kv.2 with
    | .bool true => some kv.1
    | _ => none
  | _ => []

def delays (strategy : RetryStrategy) (n : Nat) : Except Fault (List Binary64) :=
  (List.range n).mapM fun (i : Nat) => strategy.delay (i + 1 : Nat) none

def yesNo (b : Bool) : String := if b then "True" else "False"

def summary (s : Settings) (delays : List Binary64) : List String :=
  let strategy := s.retry.strategy.text
  let listed := ", ".intercalate (delays.map fun d => d.briefText ++ "s")
  ["[green]✓[/green] Settings are valid.",
    "  Environment: " ++ s.environment,
    "  Stealth level: " ++ s.stealth.level.name ++ " (" ++
      ", ".intercalate (countermeasureNames s.stealth.level.countermeasures) ++ ")",
    "  Proxies: " ++ toString s.stealth.proxyUrls.length ++ " (" ++ s.stealth.rotation ++ ")",
    "  Headless: " ++ yesNo s.browser.headless,
    "  Retry delays (" ++ strategy ++ "): " ++ (if delays.isEmpty then "none" else listed)]

def checkValid (s : Surroundings W) (settings : Settings) : Report Unit :=
  match settings.issues s.isFile with
  | .error r => Report.stop (.crash (.foreign "ValueError" r.message))
  | .ok [] =>
    match settings.retry.strategy? with
    | .error r => Report.stop (.crash (.foreign "ValueError" r.message))
    | .ok strategy =>
      match delays strategy settings.compiler.retries with
      | .error f => Report.stop (.crash f)
      | .ok ds => sayAll (summary settings ds)
  | .ok issues => do
    Report.say (failure (toString issues.length ++ " issue(s)"))
    sayAll (issues.map fun i => "  - " ++ i.message)
    Report.stop .failed

def checkSettings (s : Surroundings W) : Report Unit :=
  match settings? s with
  | .error f => do
    Report.say (failure (refusalHeadline f))
    Report.stop .failed
  | .ok settings => checkValid s settings

end BrowserPilot.Cli
