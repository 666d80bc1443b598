import BrowserPilot.Rehearsal.Performance
import BrowserPilot.Text.Base64

/-!
# A browser by the book

A driven browser whose answers are written down: which calls fail or never
answer, how long calls take, and what they give back.
-/

namespace BrowserPilot.Rehearsal

structure Mishap where
  on : String
  /-- Which calls of the name it strikes, counted from one; all if nothing is said. -/
  nth : Option (List Nat)
  /-- The fault; a call without one is never answered. -/
  fault : Option Fault

structure Screenplay where
  mishaps : List Mishap := []
  slow : List (String × Binary64) := []
  results : List (String × Json) := []

structure Played where
  screenplay : Screenplay
  counts : List (String × Nat) := []
  pages : Nat := 0

namespace Played

def count (w : Played) (name : String) : Nat := (w.counts.lookup name).getD 0

def countCall (w : Played) (name : String) : Played :=
  { w with counts := (name, w.count name + 1) :: w.counts.filter fun c => c.1 != name }

def mishap? (w : Played) (name : String) (n : Nat) : Option Mishap :=
  w.screenplay.mishaps.find? fun m =>
    m.on == name && match m.nth with
      | none => true
      | some ns => ns.contains n

def usualBox : Json :=
  .obj [("x", .num (.ofNat 100)), ("y", .num (.ofNat 200)), ("width", .num (.ofNat 80)), ("height", .num (.ofNat 30))]

def usual (name : String) : Json :=
  match name with
  | "bounding_box" => usualBox
  | "eval_on_selector_all" => .arr []
  | "screenshot" => .str "iVBORw0K"
  | "content" => .str ""
  | _ => .null

def reply (w : Played) (c : Call) : Reply × Played :=
  let v := (w.screenplay.results.lookup c.name).getD (usual c.name)
  match c with
  | .newPage => (.page ⟨w.pages + 1⟩, { w with pages := w.pages + 1 })
  | .screenshot .. => (.image (match v with | .str s => Text.Base64.decode s.toList | _ => []), w)
  | _ => (.value v, w)

/-- Answers a call by the screenplay; a sleep takes its time. -/
def respond : Responder Played := fun t c w =>
  match c with
  | .sleep seconds => ⟨w, some (later t seconds), .value .null⟩
  | c =>
    let w := w.countCall c.name
    let t := match w.screenplay.slow.lookup c.name with
      | some seconds => later t seconds
      | none => t
    match w.mishap? c.name (w.count c.name) with
    | some ⟨_, _, none⟩ => ⟨w, none, .value .null⟩
    | some ⟨_, _, some f⟩ => ⟨w, some t, .raised f⟩
    | none =>
      let (reply, w) := w.reply c
      ⟨w, some t, reply⟩

end Played

end BrowserPilot.Rehearsal
