import BrowserPilot.Numeric.Binary64

/-!
# Amounts

A number as it was given: whole, or with a fraction. Both stand for a value,
but a whole one has no bound and is written without a point.
-/

namespace BrowserPilot

inductive Amount where
  | whole (n : Int)
  | part (x : Binary64)
  deriving DecidableEq, Repr

namespace Amount

def value : Amount → Binary64
  | whole n => .ofInt n
  | part x => x

end Amount

end BrowserPilot
