import BrowserPilot.Step.Reading

/-!
# Steps

A step is an action with a name, a place in the order, a policy for errors and
fallbacks: parameters put over its own on later attempts. Fallbacks are kept
as they were written; `Action.with?` reads them together with the parameters
they are put over.
-/

namespace BrowserPilot

structure ErrorPolicy where
  ignoresErrors : Bool := false
  /-- Attempts after the first. -/
  retries : Nat := 3
  deriving DecidableEq, Repr

/-- Parameters that replace those of a step on a later attempt. -/
abbrev Fallback := Json.Members

structure Step where
  id : String
  ordinal : Nat
  action : Action
  fallbacks : List Fallback := []
  policy : ErrorPolicy := {}
  deriving Repr

open Schema

namespace Action

def with? (a : Action) (f : Fallback) : Checked Action := read a.kind (.obj (Json.override a.members f))

end Action

namespace ErrorPolicy

def toJson (p : ErrorPolicy) : Json := .obj [("ignore_errors", .bool p.ignoresErrors), ("retry_count", .ofNat p.retries)]

def readFields (m : Json.Members) : Checked ErrorPolicy :=
  Checked.ap ((optional "ignore_errors" false truth m).map ErrorPolicy.mk) (optional "retry_count" 3 count m)

def read : Reader ErrorPolicy := record "ErrorPolicy" readFields

end ErrorPolicy

namespace Step

def kind (s : Step) : ActionKind := s.action.kind

/-! ## Fallbacks -/

def fallbackFault? (id : String) (a : Action) (index : Nat) (f : Fallback) : Option String :=
  let subject := "Fallback " ++ toString index ++ " of step " ++ id
  let foreign := (f.map (·.1)).filter fun k => !(Action.parameterNames a.kind).contains k
  if foreign.isEmpty then
    match a.with? f with
    | .ok _ => none
    | .error [] => none
    | .error (p :: _) => some (subject ++ " has an invalid " ++ p.place ++ ": " ++ p.complaint.message)
  else
    -- names that the kind does not have are all told at once, the first fault of a value alone
    let sorted := foreign.mergeSort fun a b => decide (a ≤ b)
    some (subject ++ " has keys not valid for " ++ a.kind.name ++ ": " ++ Json.literalNames sorted)

def firstFault? (id : String) (a : Action) : Nat → List Fallback → Option String
  | _, [] => none
  | k, f :: rest => (fallbackFault? id a k f).orElse fun _ => firstFault? id a (k + 1) rest

/-- The action of an attempt, counted from one, and the fallback it uses. The
first attempt and those after the last fallback use the action itself. -/
def attempt (s : Step) (n : Int) : Action × Option Nat :=
  if n < 2 then (s.action, none)
  else
    let index := (n - 2).toNat
    match s.fallbacks[index]? with
    | none => (s.action, none)
    | some f =>
      match s.action.with? f with
      | .ok a => (a, some index)
      | .error _ => (s.action, some index)

/-! ## Records -/

def toJson (s : Step) : Json :=
  .obj [("id", .str s.id), ("ordinal", .ofNat s.ordinal), ("params", s.action.toJson),
    ("fallbacks", .arr (s.fallbacks.map Json.obj)), ("error_policy", s.policy.toJson), ("type", .str s.kind.name)]

def readFields (m : Json.Members) : Checked Step :=
  ((((Checked.ap ((required "id" text m).map Step.mk) ((required "ordinal" (wholeFrom 1) m).map Int.toNat)).ap
    (required "params" Action.readTagged m)).ap (optional "fallbacks" [] (items object) m)).ap
    (optional "error_policy" {} ErrorPolicy.read m))

/-- A step whose fallbacks all fit its action. -/
def read (v : Json) : Checked Step :=
  (record "ActionStep" readFields v).bind fun s =>
    match firstFault? s.id s.action 0 s.fallbacks with
    | none => .ok s
    | some fault => Checked.fail (.refused fault)

/-! ## Sequences -/

inductive SequenceFault where
  | duplicate (id : String)
  | outOfOrder (id : String) (ordinal previous : Nat)
  deriving DecidableEq, Repr

def SequenceFault.message : SequenceFault → String
  | duplicate id => "Duplicate step id: " ++ id
  | outOfOrder id ordinal previous =>
    "Step " ++ id ++ " ordinal " ++ toString ordinal ++ " does not follow " ++ toString previous

def sequenceFrom (seen : List String) (previous : Nat) : List Step → Except SequenceFault Unit
  | [] => .ok ()
  | s :: rest =>
    if seen.contains s.id then .error (.duplicate s.id)
    else if s.ordinal ≤ previous then .error (.outOfOrder s.id s.ordinal previous)
    else sequenceFrom (s.id :: seen) s.ordinal rest

/-- Ids are unique and ordinals increase. -/
def checkSequence (steps : List Step) : Except SequenceFault Unit := sequenceFrom [] 0 steps

end Step

end BrowserPilot
