import BrowserPilot.Fault
import BrowserPilot.Random.Draw

/-!
# Human pace

Pauses of random length between the parts of a primitive. A scale stretches
pauses; at zero there are none, but their lengths are still drawn, so that the
scale has no influence on any other draw.
-/

namespace BrowserPilot

structure Pacer where
  scale : Binary64
  deriving DecidableEq, Repr

namespace Pacer

def negativeScale : Fault := .foreign "ValueError" "scale must be >= 0"

def ofScale (scale : Binary64) : Except Fault Pacer :=
  if scale.lt (.zero false) then .error negativeScale else .ok ⟨scale⟩

def seconds (ms : Binary64) : Binary64 := (ms.div? (.ofNat 1000)).getD .nan

/-- How long to sleep for a pause of a drawn length; nothing without pauses. -/
def sleepFor? (p : Pacer) (ms : Binary64) : Option Binary64 :=
  if (Binary64.zero false).lt p.scale then some (seconds (ms.mul p.scale)) else none

def pause (p : Pacer) (least greatest : Binary64) : Draw (Binary64 × Option Binary64) := do
  let ms ← Draw.uniform least greatest
  pure (ms, p.sleepFor? ms)

/-! ## Explicit waits -/

/-- A number of milliseconds whose seconds are beyond the largest double. -/
def tooLong : Fault := .foreign "OverflowError" "integer division result too large for a float"

/-- How long to sleep for an explicit wait, which is never scaled. -/
def holdFor (ms : Int) : Except Fault (Option Binary64) :=
  if 0 < ms then
    match Binary64.ofRatio ms 1000 with
    | .infinite _ => .error tooLong
    | s => .ok (some s)
  else .ok none

def holdForPart (ms : Binary64) : Option Binary64 := if (Binary64.zero false).lt ms then some (seconds ms) else none

end Pacer

end BrowserPilot
