import BrowserPilot.Browser.Countermeasures
import BrowserPilot.Path
import BrowserPilot.Retry
import BrowserPilot.Schema.Reader

/-!
# Settings

What a run is configured with, in sections. Every field has a value to start
from.
-/

namespace BrowserPilot

structure BrowserSettings where
  headless : Bool := true
  timeoutMs : Nat := 30000
  sandbox : Bool := false
  videoDirectory : String := ""
  deriving DecidableEq, Repr

structure StealthSettings where
  level : StealthLevel := .advanced
  proxyUrls : List String := []
  rotation : String := "round_robin"
  deriving DecidableEq, Repr

structure TimingSettings where
  scale : Binary64 := .ofNat 1
  deriving DecidableEq, Repr

structure RetrySettings where
  strategy : RetryStrategy.Name := .exponential
  baseDelay : Binary64 := .ofNat 1
  maxDelay : Binary64 := .ofNat 30
  deriving DecidableEq, Repr

structure MonitorSettings where
  abortsOnFailure : Bool := true
  grace : Binary64 := .ofNat 5
  deriving DecidableEq, Repr

structure CompilerSettings where
  retries : Nat := 3
  deriving DecidableEq, Repr

structure Settings where
  environment : String := "local"
  projectRoot : Path
  debug : Bool := false
  browser : BrowserSettings := {}
  stealth : StealthSettings := {}
  timing : TimingSettings := {}
  retry : RetrySettings := {}
  monitor : MonitorSettings := {}
  compiler : CompilerSettings := {}
  deriving DecidableEq, Repr

open Schema

/-! ## Sections -/

/-- A field by its name, and whether it holds a list. -/
abbrev FieldShape := String × Bool

namespace BrowserSettings

def fields : List FieldShape :=
  [("headless", false), ("timeout_ms", false), ("sandbox", false), ("record_video_dir", false)]

def read : Reader BrowserSettings :=
  closedRecord "BrowserSettings" (fields.map (·.1)) fun m =>
    (((Checked.ap ((optional "headless" true truth m).map BrowserSettings.mk)
      (optional "timeout_ms" 30000 positive m)).ap (optional "sandbox" false truth m)).ap
        (optional "record_video_dir" "" text m))

def toJson (s : BrowserSettings) : Json :=
  .obj [("headless", .bool s.headless), ("timeout_ms", .ofNat s.timeoutMs), ("sandbox", .bool s.sandbox),
    ("record_video_dir", .str s.videoDirectory)]

end BrowserSettings

namespace StealthSettings

def fields : List FieldShape := [("level", false), ("proxy_urls", true), ("rotation_strategy", false)]

def levels : List (String × StealthLevel) := StealthLevel.all.map fun l => (l.name, l)

def read : Reader StealthSettings :=
  closedRecord "StealthSettings" (fields.map (·.1)) fun m =>
    ((Checked.ap ((optional "level" .advanced (word levels) m).map StealthSettings.mk)
      (optional "proxy_urls" [] (items text) m)).ap (optional "rotation_strategy" "round_robin" text m))

def toJson (s : StealthSettings) : Json :=
  .obj [("level", .str s.level.name), ("proxy_urls", .arr (s.proxyUrls.map .str)), ("rotation_strategy", .str s.rotation)]

end StealthSettings

namespace TimingSettings

def fields : List FieldShape := [("scale", false)]

def read : Reader TimingSettings :=
  closedRecord "TimingSettings" (fields.map (·.1)) fun m => (optional "scale" (.ofNat 1) (numberFrom 0) m).map .mk

def toJson (s : TimingSettings) : Json := .obj [("scale", .num s.scale)]

end TimingSettings

namespace RetrySettings

def fields : List FieldShape := [("strategy", false), ("base_delay_sec", false), ("max_delay_sec", false)]

def names : List (String × RetryStrategy.Name) := RetryStrategy.Name.all.map fun n => (n.text, n)

def read : Reader RetrySettings :=
  closedRecord "RetrySettings" (fields.map (·.1)) fun m =>
    ((Checked.ap ((optional "strategy" .exponential (word names) m).map RetrySettings.mk)
      (optional "base_delay_sec" (.ofNat 1) (numberFrom 0) m)).ap (optional "max_delay_sec" (.ofNat 30) (numberFrom 0) m))

def toJson (s : RetrySettings) : Json :=
  .obj [("strategy", .str s.strategy.text), ("base_delay_sec", .num s.baseDelay), ("max_delay_sec", .num s.maxDelay)]

def strategy? (s : RetrySettings) : Except RetryStrategy.Refusal RetryStrategy :=
  RetryStrategy.ofName? s.strategy s.baseDelay s.maxDelay

end RetrySettings

namespace MonitorSettings

def fields : List FieldShape := [("abort_on_failure", false), ("stop_grace_sec", false)]

def read : Reader MonitorSettings :=
  closedRecord "MonitorSettings" (fields.map (·.1)) fun m =>
    Checked.ap ((optional "abort_on_failure" true truth m).map MonitorSettings.mk)
      (optional "stop_grace_sec" (.ofNat 5) (numberFrom 0) m)

def toJson (s : MonitorSettings) : Json :=
  .obj [("abort_on_failure", .bool s.abortsOnFailure), ("stop_grace_sec", .num s.grace)]

end MonitorSettings

namespace CompilerSettings

def fields : List FieldShape := [("default_retry_count", false)]

def read : Reader CompilerSettings :=
  closedRecord "CompilerSettings" (fields.map (·.1)) fun m => (optional "default_retry_count" 3 count m).map .mk

def toJson (s : CompilerSettings) : Json := .obj [("default_retry_count", .ofNat s.retries)]

end CompilerSettings

/-! ## All settings -/

namespace Settings

def sections : List (String × List FieldShape) := [
  ("browser", BrowserSettings.fields), ("stealth", StealthSettings.fields), ("timing", TimingSettings.fields),
  ("retry", RetrySettings.fields), ("monitor", MonitorSettings.fields), ("compiler", CompilerSettings.fields)]

def plainFields : List String := ["env", "project_root", "debug"]

def path : Reader Path
  | .str s => .ok (.ofString s)
  | _ => .fail .notPath

/-- A section that is refused for a reason from outside, whatever it holds. -/
def guarded {α : Type} (refusal : Option String) (r : Reader α) : Reader α
  | .obj m => match refusal with
    | some why => .fail (.refused why)
    | none => r (.obj m)
  | v => r v

/-- The settings that an object describes, when no section is refused. Names it
does not know are ignored outside the sections. -/
def read (root : Path) (refusal : String → Option String) : Reader Settings :=
  let part {α : Type} (name : String) (otherwise : α) (r : Reader α) (m : Json.Members) : Checked α :=
    optional name otherwise (guarded (refusal name) r) m
  record "Settings" fun m =>
    ((((((((Checked.ap ((optional "env" "local" text m).map Settings.mk) (optional "project_root" root path m)).ap
      (optional "debug" false truth m)).ap (part "browser" {} BrowserSettings.read m)).ap
      (part "stealth" {} StealthSettings.read m)).ap (part "timing" {} TimingSettings.read m)).ap
      (part "retry" {} RetrySettings.read m)).ap (part "monitor" {} MonitorSettings.read m)).ap
      (part "compiler" {} CompilerSettings.read m))

/-- A directory for videos that is not absolute lies in the project. -/
def resolvePaths (s : Settings) : Settings :=
  let dir := s.browser.videoDirectory
  if dir.isEmpty || (Path.ofString dir).isAbsolute then s
  else { s with browser := { s.browser with videoDirectory := (s.projectRoot.under (.ofString dir)).text } }

def toJson (s : Settings) : Json :=
  .obj [("env", .str s.environment), ("project_root", .str s.projectRoot.text), ("debug", .bool s.debug),
    ("browser", s.browser.toJson), ("stealth", s.stealth.toJson), ("timing", s.timing.toJson),
    ("retry", s.retry.toJson), ("monitor", s.monitor.toJson), ("compiler", s.compiler.toJson)]

end Settings

end BrowserPilot
