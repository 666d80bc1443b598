import BrowserPilot.Rehearsal.Stage

/-!
# Primitives by the book

A troupe whose primitives go as they are written down, one behaviour for each
call in order.
-/

namespace BrowserPilot.Rehearsal

structure Behaviour where
  calls : List Interruption := []
  /-- How long it takes; nothing when it never ends. -/
  seconds : Option Binary64 := some (.zero false)
  outcome : Action → Outcome

namespace Behaviour

/-- A primitive that has no behaviour written down succeeds at once. -/
def usual : Behaviour where
  outcome a := .finished (match a with
    | .extract _ => .elements []
    | .screenshot _ => .image [0x89, 0x50, 0x4E, 0x47]
    | _ => .nothing)

def turn (b : Behaviour) (t : Binary64) (a : Action) (rest : List Behaviour) : Turn (List Behaviour) where
  calls := b.calls
  ending := b.seconds.map fun s => (later t s, b.outcome a)
  after := rest
  cutAt _ := rest

/-- Every call takes the next behaviour; closing the browser takes no time. -/
def troupe : Troupe (List Behaviour) where
  perform t a bs :=
    match bs with
    | [] => usual.turn t a []
    | b :: rest => b.turn t a rest
  close t bs := { ending := some (t, .finished .nothing), after := bs, cutAt := fun _ => bs }
  delay _ _ bs := bs

end Behaviour

end BrowserPilot.Rehearsal
