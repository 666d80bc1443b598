import BrowserPilot.Schema.Reader
import BrowserPilot.Json.Literal
import BrowserPilot.Step.Action

/-!
# Reading actions

An action is read from a record of its parameters. Parameters that are left
out have a default; parameters the kind does not have are refused. Where the
kind is not fixed, the member `action` of the record decides it.
-/

namespace BrowserPilot.Action

open Schema

/-- The member `action`, which may only name the kind at hand. -/
def readKind (k : ActionKind) (members : Json.Members) : Checked Unit :=
  match Json.get? members "action" with
  | none => .ok ()
  | some (.str s) => if s = k.name then .ok () else .error [⟨["action"], .notChoice [k.tag]⟩]
  | some _ => .error [⟨["action"], .notChoice [k.tag]⟩]

def readMode (v : Json) : Checked WaitMode := word [("time", .time), ("selector", .selector)] v

def readDirection (v : Json) : Checked ScrollDirection := word [("up", .up), ("down", .down)] v

/-- A scroll target is the word `end` or a number of pixels. -/
def readTarget (v : Json) : Checked ScrollTarget :=
  match word [("end", ScrollTarget.bottom)] v with
  | .ok t => .ok t
  | .error p =>
    -- when neither reading succeeds, both tell why
    match count v with
    | .ok n => .ok (.pixels n)
    | .error q => .error (p.map (Problem.inside "literal['end']") ++ q.map (Problem.inside "constrained-int"))

def parameterNames : ActionKind → List String
  | .navigate => ["url"]
  | .click => ["selector"]
  | .type => ["selector", "text"]
  | .wait => ["mode", "duration_ms", "selector"]
  | .extract => ["selector"]
  | .screenshot => ["full_page"]
  | .scroll => ["position", "direction"]

def readFields (k : ActionKind) (m : Json.Members) : Checked Action :=
  let start {α : Type} (f : α) : Checked α := (readKind k m).map fun _ => f
  match k with
  | .navigate => (start navigate).ap (optional "url" "" text m)
  | .click => (start click).ap (optional "selector" "" text m)
  | .type => ((start type).ap (optional "selector" "" text m)).ap (optional "text" "" text m)
  | .wait =>
    (((start wait).ap (optional "mode" .time readMode m)).ap (optional "duration_ms" 0 count m)).ap
      (optional "selector" "" text m)
  | .extract => (start extract).ap (optional "selector" "" text m)
  | .screenshot => (start screenshot).ap (optional "full_page" false truth m)
  | .scroll =>
    ((start scroll).ap (optional "position" .bottom readTarget m)).ap (optional "direction" .down readDirection m)

def read (k : ActionKind) : Reader Action := closedRecord k.model ("action" :: parameterNames k) (readFields k)

def readTagged (v : Json) : Checked Action :=
  match v with
  | .obj members =>
    match Json.get? members "action" with
    | none => Checked.fail .tagMissing
    | some t =>
      let unknown := Complaint.tagUnknown (Json.display t) (ActionKind.all.map ActionKind.tag)
      match t with
      | .str s =>
        match ActionKind.ofName? s with
        | some k => Checked.inside k.name (read k v)
        | none => Checked.fail unknown
      | _ => Checked.fail unknown
  | _ => Checked.fail .notTagged

end BrowserPilot.Action
