import BrowserPilot.Fault
import BrowserPilot.Numeric.Binary64
import BrowserPilot.Random.Twister

/-!
# Random draws

What is drawn from a generator: bits, whole numbers below a bound or between
two bounds, doubles, and members of a list. A draw gives its value and the
generator after it.
-/

namespace BrowserPilot

abbrev Draw (α : Type) := StateM Twister α

namespace Draw

def word : Draw Nat := fun g => let (w, g) := g.next; (w.toNat, g)

/-- `n` whole words, the lowest first. -/
def words : Nat → Draw Nat
  | 0 => pure 0
  | n + 1 => do
    let low ← word
    let high ← words n
    pure (low + twoTo 32 * high)

/-- A number of `k` bits. Words fill it from below; the highest one gives its
upper bits. -/
def bits (k : Nat) : Draw Nat :=
  if k % 32 = 0 then words (k / 32)
  else do
    let low ← words (k / 32)
    let high ← word
    pure (low + twoTo (32 * (k / 32)) * (high / twoTo (32 - k % 32)))

def bitLength (n : Nat) : Nat := if n = 0 then 0 else n.log2 + 1

/-- Draws numbers of `k` bits until one is below `n`; gives up when `patience`
runs out. -/
def belowWithin (k n : Nat) : Nat → Draw Nat
  | 0 => pure 0
  | patience + 1 => do
    let r ← bits k
    if r < n then pure r else belowWithin k n patience

/-- A number below `n`. Every draw succeeds with a chance of one half or more,
so that the bound on their number is never met. -/
def below (n : Nat) : Draw Nat := belowWithin (bitLength n) n 4096

def emptyRange (low high : Int) : Fault :=
  .foreign "ValueError" ("empty range for randrange() (" ++ toString low ++ ", " ++ toString (high + 1) ++ ", " ++
    toString (high + 1 - low) ++ ")")

/-- A number of `low`, …, `high`; nothing, and no draw, when there is none. -/
def between? (low high : Int) : Draw (Option Int) :=
  if high < low then pure none
  else do
    let r ← below (high - low + 1).toNat
    pure (some (low + r))

def withSpan (low span : Nat) : Draw Nat := do
  let r ← below (span + 1)
  pure (low + r)

/-- A double in `[0, 1)` with 53 random bits. -/
def unit : Draw Binary64 := do
  let a ← word
  let b ← word
  pure (.ofRatio ((a / twoTo 5) * twoTo 26 + b / twoTo 6 : Nat) (twoTo 53))

def uniform (low high : Binary64) : Draw Binary64 := do
  let u ← unit
  pure (low.add ((high.sub low).mul u))

def chance (p : Binary64) : Draw Bool := do
  let u ← unit
  pure (u.lt p)

def member {α : Type} (xs : List α) (h : xs ≠ []) : Draw α := do
  let r ← below xs.length
  -- a draw below the length has a member; the head only makes the function total
  pure (match xs[r]? with
    | some x => x
    | none => xs.head h)

end Draw

end BrowserPilot
