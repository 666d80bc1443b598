import BrowserPilot.Fault
import BrowserPilot.Numeric.Binary64

/-!
# The way of the pointer

The points that the pointer passes on its straight way from one point to
another.
-/

namespace BrowserPilot

structure Point where
  x : Binary64
  y : Binary64
  deriving DecidableEq, Repr

namespace Point

def between (a b : Binary64) (i n : Nat) : Binary64 :=
  a.add ((((b.sub a).mul (.ofNat i)).div? (.ofNat n)).getD .nan)

/-- The points on the way, the first left out and the last included. -/
def path (start stop : Point) (n : Nat) : List Point :=
  (List.range n).map fun i => ⟨between start.x stop.x (i + 1) n, between start.y stop.y (i + 1) n⟩

def noSteps : Fault := .foreign "ValueError" "steps must be >= 1"

def path? (start stop : Point) (steps : Int) : Except Fault (List Point) :=
  if steps < 1 then .error noSteps else .ok (path start stop steps.toNat)

end Point

end BrowserPilot
