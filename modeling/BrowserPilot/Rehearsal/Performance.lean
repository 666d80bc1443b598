import BrowserPilot.Browser.Basic

/-!
# Playing work on a clock

Work is played against something that answers its calls, on a clock that jumps
from answer to answer. A performance keeps how everything stood at each call,
so that it can also be cut short.
-/

namespace BrowserPilot.Rehearsal

/-- The time after a sleep; one of no length ends at once. -/
def later (t seconds : Binary64) : Binary64 := if (Binary64.zero false).lt seconds then t.add seconds else t

structure Answer (W : Type) where
  world : W
  /-- When the reply comes; nothing when it never does. -/
  comes : Option Binary64
  reply : Reply

abbrev Responder (W : Type) := Binary64 → Call → W → Answer W

/-- How everything stands while a call is under way. -/
structure Checkpoint (W : Type) where
  time : Binary64
  call : Call
  browser : Browser
  world : W

/-- How everything stands when work has ended. -/
structure Ending (α W : Type) where
  time : Binary64
  result : Except Fault α
  browser : Browser
  world : W

structure Performance (α W : Type) where
  checkpoints : List (Checkpoint W)
  /-- Nothing when a call is never answered. -/
  ending : Option (Ending α W)

def play {α W : Type} (respond : Responder W) : Program α → Binary64 → W → Performance α W
  | .done b result, t, w => ⟨[], some ⟨t, result, b, w⟩⟩
  | .ask b c next, t, w =>
    let a := respond t c w
    let here : Checkpoint W := ⟨t, c, b, a.world⟩
    match a.comes with
    | none => ⟨[here], none⟩
    | some t =>
      let rest := play respond (next a.reply) t a.world
      ⟨here :: rest.checkpoints, rest.ending⟩

/-! ## The scene of a run -/

/-- A browser with the world it drives, and all calls so far. -/
structure Scene (W : Type) where
  browser : Browser
  world : W
  calls : List (Binary64 × Call) := []

namespace Scene

def note {W : Type} (s : Scene W) (checkpoints : List (Checkpoint W)) : Scene W :=
  { s with calls := s.calls ++ checkpoints.map fun c => (c.time, c.call) }

/-- The scene when work has ended, or as far as it gets. -/
def after {α W : Type} (s : Scene W) (p : Performance α W) : Scene W :=
  match p.ending, p.checkpoints.getLast? with
  | some e, _ => { s.note p.checkpoints with browser := e.browser, world := e.world }
  | none, some c => { s.note p.checkpoints with browser := c.browser, world := c.world }
  | none, none => s

def cutAt {α W : Type} (s : Scene W) (p : Performance α W) (t : Binary64) : Scene W :=
  let begun := p.checkpoints.takeWhile fun c => c.time.le t
  match begun.getLast? with
  | some c => { s.note begun with browser := c.browser, world := c.world }
  | none => s

def play {α W : Type} (respond : Responder W) (work : Work α) (t : Binary64) (s : Scene W) : Performance α W :=
  Rehearsal.play respond (work s.browser) t s.world

end Scene

end BrowserPilot.Rehearsal
