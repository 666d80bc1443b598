/-!
# The Mersenne Twister

A generator of 32-bit words with 624 words of state. A seed of any size fills
the state; the same seed always gives the same words.
-/

namespace BrowserPilot

/-- A generator: its words, and how many of them have been drawn. -/
structure Twister where
  words : Array UInt32
  used : Nat
  deriving DecidableEq, Repr

namespace Twister

def size : Nat := 624

/-- How far ahead the word lies that is mixed into a new one. -/
def offset : Nat := 397

def word (ws : Array UInt32) (i : Nat) : UInt32 := ws.getD i 0

/-! ## Seeding -/

/-- The words after `i` of them, each made from the one before. -/
def fillFrom (i : Nat) (last : UInt32) : Nat → Array UInt32 → Array UInt32
  | 0, ws => ws
  | n + 1, ws =>
    let next := (1812433253 : UInt32) * (last ^^^ (last >>> 30)) + UInt32.ofNat i
    fillFrom (i + 1) next n (ws.push next)

def fill (seed : UInt32) : Array UInt32 := fillFrom 1 seed (size - 1) #[seed]

/-- The place after `i`; past the end the last word is copied to the front. -/
def step (i : Nat) (ws : Array UInt32) : Nat × Array UInt32 :=
  if i + 1 < size then (i + 1, ws) else (1, ws.setIfInBounds 0 (word ws (size - 1)))

/-- Stirs a key into the state, word `j` of the key into word `i`. -/
def stirKey (key : Array UInt32) : Nat → Nat → Nat → Array UInt32 → Nat × Array UInt32
  | 0, i, _, ws => (i, ws)
  | n + 1, i, j, ws =>
    let last := word ws (i - 1)
    let mixed := (word ws i ^^^ ((last ^^^ (last >>> 30)) * 1664525)) + word key j + UInt32.ofNat j
    let (i, ws) := step i (ws.setIfInBounds i mixed)
    stirKey key n i (if j + 1 < key.size then j + 1 else 0) ws

def stir : Nat → Nat → Array UInt32 → Array UInt32
  | 0, _, ws => ws
  | n + 1, i, ws =>
    let last := word ws (i - 1)
    let mixed := (word ws i ^^^ ((last ^^^ (last >>> 30)) * 1566083941)) - UInt32.ofNat i
    let (i, ws) := step i (ws.setIfInBounds i mixed)
    stir n i ws

/-- The words of a number, the lowest first; one word at least. -/
def keyOf (n : Nat) : List UInt32 :=
  if n < 0x100000000 then [UInt32.ofNat n] else UInt32.ofNat (n % 0x100000000) :: keyOf (n / 0x100000000)
termination_by n
decreasing_by omega

/-- The generator of a seed. The sign of a seed does not count. -/
def ofSeed (seed : Int) : Twister :=
  let key := (keyOf seed.natAbs).toArray
  let (i, ws) := stirKey key (max size key.size) 1 0 (fill 19650218)
  -- the first word is set, so that the state is never zero throughout
  { words := (stir (size - 1) i ws).setIfInBounds 0 0x80000000, used := size }

/-! ## Drawing -/

def remakeFrom : Nat → Nat → Array UInt32 → Array UInt32
  | 0, _, ws => ws
  | n + 1, i, ws =>
    -- the highest bit of this word and the others of the next one
    let y := (word ws i &&& 0x80000000) ||| (word ws ((i + 1) % size) &&& 0x7fffffff)
    let flip : UInt32 := if y &&& 1 = 0 then 0 else 0x9908b0df
    remakeFrom n (i + 1) (ws.setIfInBounds i (word ws ((i + offset) % size) ^^^ (y >>> 1) ^^^ flip))

def temper (y : UInt32) : UInt32 :=
  let y := y ^^^ (y >>> 11)
  let y := y ^^^ ((y <<< 7) &&& 0x9d2c5680)
  let y := y ^^^ ((y <<< 15) &&& 0xefc60000)
  y ^^^ (y >>> 18)

/-- The next word. The state is remade when all of it has been drawn. -/
def next (g : Twister) : UInt32 × Twister :=
  if g.used < size then (temper (word g.words g.used), { g with used := g.used + 1 })
  else
    let words := remakeFrom size 0 g.words
    (temper (word words 0), { words, used := 1 })

end Twister

end BrowserPilot
