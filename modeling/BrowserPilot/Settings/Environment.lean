import BrowserPilot.Json.Reader
import BrowserPilot.Settings.Basic
import BrowserPilot.Text.Split

/-!
# Settings from environment variables

A variable sets a field: its name is that of the section and that of the field,
joined by two underscores. A variable for a section as a whole holds an object
in JSON, and one for a field that is a list holds it in JSON. Upper and lower
case are not told apart.
-/

namespace BrowserPilot

abbrev Environment := List (String × String)

namespace Environment

/-- What the names of all variables start with, in lower case. -/
def namePrefix : String := "stealthrun_"

def environmentName : String := "STEALTHRUN_ENV"

def names : List String :=
  let ofSection (s : String × List FieldShape) : List String := s.1 :: s.2.map fun f => s.1 ++ "__" ++ f.1
  (Settings.plainFields ++ Settings.sections.flatMap ofSection).map fun n =>
    String.ofList ((namePrefix ++ n).toList.map Char.toUpper)

def lowered (s : String) : String := String.ofList (s.toList.map Char.toLower)

/-- The variables with their names in lower case; of two with the same name the
later one counts. -/
def normalize (env : Environment) : Environment :=
  env.foldl (fun vars kv =>
    let name := lowered kv.1
    if vars.any (·.1 == name) then vars.map fun v => if v.1 == name then (name, kv.2) else v
    else vars ++ [(name, kv.2)]) []

/-! ## Merging values -/

mutual

/-- The second value over the first; objects are merged member by member. -/
def overlay : Json → Json → Json
  | .obj base, .obj upper => .obj (overlayMembers base upper)
  | _, upper => upper

def overlayMembers : Json.Members → List (String × Json) → Json.Members
  | base, [] => base
  | base, (k, v) :: rest =>
    let value := match Json.get? base k with
      | some old => overlay old v
      | none => v
    overlayMembers (Json.put k value base) rest

end

/-! ## Sections -/

/-- Puts a value at a path of names. What is on the way and is no object stays. -/
def putAt (value : Json) : List String → Json.Members → Json.Members
  | [], m => m
  | [name], m => Json.put name value m
  | name :: rest, m =>
    match (Json.get? m name).getD (.obj []) with
    | .obj inner => Json.put name (.obj (putAt value rest inner)) m
    | _ => m

/-- The value of a variable for a path in a section; nothing when it should
hold JSON and does not. -/
def valueAt? (fields : List FieldShape) (names : List String) (value : String) : Option Json :=
  match names with
  | [name] => if fields.lookup name == some true && !value.isEmpty then Json.parse value else some (.str value)
  | _ => some (.str value)

def explode? (start : String) (fields : List FieldShape) : Environment → Json.Members → Option Json.Members
  | [], m => some m
  | (name, value) :: rest, m =>
    match (start ++ "__").toList.isPrefixOf? name.toList with
    | none => explode? start fields rest m
    | some path =>
      let names := (Text.splitOn ['_', '_'] path).map String.ofList
      match valueAt? fields names value with
      | none => none
      | some v => explode? start fields rest (putAt v names m)

def respell (fields : List FieldShape) (m : Json.Members) : Json.Members :=
  Json.ofWritten (m.map fun kv => (((fields.find? fun f => f.1 == lowered kv.1).map (·.1)).getD kv.1, kv.2))

/-- What the variables say about a section, if anything; fails when one that
should hold JSON does not. -/
def section? (vars : Environment) (name : String) (fields : List FieldShape) : Option (Option Json) :=
  let start := namePrefix ++ name
  match vars.lookup start with
  | none => (explode? start fields vars []).map fun m => if m.isEmpty then none else some (.obj (respell fields m))
  | some text =>
    match Json.parse text with
    | none => none
    | some .null => some none
    | some (.obj whole) =>
      (explode? start fields vars []).map fun m => some (.obj (respell fields (overlayMembers whole m)))
    | some v => some (some v)

/-- What the variables say about all sections; else the section they fail at. -/
def sectionValues (vars : Environment) : List (String × List FieldShape) → Except String Json.Members
  | [] => .ok []
  | (name, fields) :: rest =>
    match section? vars name fields with
    | none => .error name
    | some value =>
      (sectionValues vars rest).map fun more => (value.toList.map fun v => (name, v)) ++ more

/-- The field of a section whose variable should hold a list and is empty. Such
a variable is found out only when the section is read. -/
def emptyList? (env : Environment) (name : String) : Option String :=
  let vars := normalize env
  ((Settings.sections.lookup name).getD []).findSome? fun f =>
    if f.2 && vars.lookup (namePrefix ++ name ++ "__" ++ f.1) == some "" then some f.1 else none

def plainValues (vars : Environment) : Json.Members :=
  Settings.plainFields.filterMap fun f => (vars.lookup (namePrefix ++ f)).map fun v => (f, .str v)

def values (env : Environment) : Except String Json.Members :=
  let vars := normalize env
  (sectionValues vars Settings.sections).map (plainValues vars ++ ·)

end Environment

end BrowserPilot
