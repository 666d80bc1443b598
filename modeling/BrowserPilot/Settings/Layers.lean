import BrowserPilot.Event.Bus
import BrowserPilot.Settings.Environment
import BrowserPilot.Toml.Reader

/-!
# Layers of settings

Settings come from four layers: a document for everyone, one for the named
environment, a local one, and values that are given explicitly or by variables.
A later layer goes over an earlier one, field by field inside a section.
-/

namespace BrowserPilot.Settings

inductive LoadFault where
  /-- A variable should hold JSON and does not. -/
  | unreadable (field : String)
  | invalid (problems : List Schema.Problem)
  | other (f : Fault)
  deriving DecidableEq

def unreadableMessage (field : String) : String :=
  "error parsing value for field \"" ++ field ++ "\" from source \"EnvSettingsSource\""

namespace LoadFault

def kind : LoadFault → String
  | unreadable _ => "SettingsError"
  | invalid _ => "ValidationError"
  | other f => f.kind

def message : LoadFault → String
  | unreadable field => unreadableMessage field
  | invalid problems => Schema.Problem.report problems
  | other f => f.message

end LoadFault

/-! ## Merging -/

/-- One layer over what is already there: the fields of a section one by one,
everything else as a whole. -/
def putLayer (merged layer : Json.Members) : Json.Members :=
  layer.foldl (fun m kv =>
    match Json.get? m kv.1, kv.2 with
    | some (.obj old), .obj new => Json.put kv.1 (.obj (Json.override old new)) m
    | _, v => Json.put kv.1 v m) merged

def mergeLayers (layers : List Json.Members) : Json.Members := layers.foldl putLayer []

/-! ## Documents -/

/-- Whether a value counts as given when it names the environment. -/
def isGiven : Json → Bool
  | .null | .bool false | .str "" | .arr [] | .obj [] => false
  | .int n => n ≠ 0
  | .num x => x.toInt? ≠ some 0
  | _ => true

/-- The environment to load a document for, without blanks around its name. -/
def environmentOf (env : Environment) (values : Json.Members) : Except Fault String :=
  let named (s : String) : String := String.ofList (Text.trim s.toList)
  match (Json.get? values "env").filter isGiven with
  | some (.str s) => .ok (named s)
  | some v => .error (.foreign "AttributeError" ("'" ++ Snapshot.foreignName v ++ "' object has no attribute 'strip'"))
  | none =>
    match env.lookup Environment.environmentName with
    | some s => .ok (named (if s.isEmpty then "local" else s))
    | none => .ok "local"

/-- The document of a name among the files of the configuration directory;
empty when there is none. -/
def document (files : String → Option String) (name : String) : Except LoadFault Json.Members :=
  match files ("settings." ++ name ++ ".toml") with
  | none => .ok []
  | some text => (Toml.parse text).mapError fun m => .invalid [⟨[], .refused m⟩]

def merged (env : Environment) (files : String → Option String) (values : Json.Members) :
    Except LoadFault Json.Members := do
  let defaults ← document files "default"
  let name ← (environmentOf env values).mapError .other
  let named ← document files name
  let own ← document files "local"
  .ok (mergeLayers [defaults, named, own, values])

/-! ## Loading -/

/-- The settings of a project, from variables, documents and explicit values.
Explicit values go over those of variables, inside objects too. -/
def load (root : Path) (env : Environment) (files : String → Option String) (explicit : Json.Members) :
    Except LoadFault Settings := do
  let given ← (Environment.values env).mapError .unreadable
  let m ← merged env files (Environment.overlayMembers given explicit)
  let refusal (name : String) : Option String := (env.emptyList? name).map unreadableMessage
  let s ← (Settings.read root refusal (.obj m)).mapError .invalid
  .ok s.resolvePaths

end BrowserPilot.Settings
