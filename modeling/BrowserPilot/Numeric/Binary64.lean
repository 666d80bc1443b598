import BrowserPilot.Numeric.Power

/-!
# Double-precision numbers with exact arithmetic

A finite double is `± significand · 2 ^ exponent`. Every operation computes
the exact rational result and rounds it once, to the nearest double, a half
going to the even neighbour. `nearest` is that one rounding; all else is
natural-number arithmetic, so the definitions can be unfolded in proofs.
-/

namespace BrowserPilot

/-- A double-precision number. Values made by `nearest` are canonical: the
significand is below `2 ^ 53`, and below `2 ^ 52` only at the least exponent. -/
inductive Binary64 where
  | nan
  | infinite (negative : Bool)
  | finite (negative : Bool) (significand : Nat) (exponent : Int)
  deriving DecidableEq, Repr, Inhabited

namespace Binary64

def minExponent : Int := -1074
def maxExponent : Int := 971

def zero (negative : Bool) : Binary64 := .finite negative 0 minExponent

/-! ## Rounding -/

/-- The integer nearest to `num / den`, a half going to the even one. -/
def halfEven (num den : Nat) : Nat :=
  let q := num / den
  let r := num % den
  if 2 * r < den then q else if den < 2 * r then q + 1 else q + q % 2

/-- The exponent of the highest power of two that is at most `num / den`. -/
def magnitude (num den : Nat) : Int :=
  let k : Int := (num.log2 : Int) - (den.log2 : Int)
  if den * twoTo k.toNat ≤ num * twoTo (-k).toNat then k else k - 1

/-- The double nearest to `± num / den`. -/
def nearest (negative : Bool) (num den : Nat) : Binary64 :=
  if num = 0 then zero negative
  else
    let e := max minExponent (magnitude num den - 52)
    let s := halfEven (num * twoTo (-e).toNat) (den * twoTo e.toNat)
    -- rounding up may carry into the next power of two
    if s < twoTo 53 then
      if e ≤ maxExponent then .finite negative s e else .infinite negative
    else
      if e + 1 ≤ maxExponent then .finite negative (twoTo 52) (e + 1) else .infinite negative

/-- The double nearest to `± significand · 2 ^ exponent`. -/
def ofDyadic (negative : Bool) (significand : Nat) (exponent : Int) : Binary64 :=
  nearest negative (significand * twoTo exponent.toNat) (twoTo (-exponent).toNat)

/-- The double nearest to `± digits · 10 ^ exponent`; exponents beyond the
range of doubles are settled without computing the power. -/
def ofDecimal (negative : Bool) (digits : Nat) (exponent : Int) : Binary64 :=
  if digits = 0 then zero negative
  else if 400 < exponent then .infinite negative
  -- `digits` is below `2 ^ (log2 + 1)`, so this is far below half of the least double
  else if exponent < -400 - (digits.log2 : Int) then zero negative
  else nearest negative (digits * tenTo exponent.toNat) (tenTo (-exponent).toNat)

def ofInt (n : Int) : Binary64 := nearest (n < 0) n.natAbs 1

def ofNat (n : Nat) : Binary64 := nearest false n 1

def ofRatio (n : Int) (den : Nat) : Binary64 := nearest (n < 0) n.natAbs den

/-! ## Views -/

def isFinite : Binary64 → Bool
  | .finite .. => true
  | _ => false

def isNegative : Binary64 → Bool
  | .nan => false
  | .infinite s => s
  | .finite s _ _ => s

def signed (negative : Bool) (significand : Nat) : Int :=
  if negative then -(significand : Int) else significand

def ratio (significand : Nat) (exponent : Int) : Nat × Nat :=
  (significand * twoTo exponent.toNat, twoTo (-exponent).toNat)

def truncate? : Binary64 → Option Int
  | .finite s m e => let (n, d) := ratio m e; some (signed s (n / d))
  | _ => none

def toInt? : Binary64 → Option Int
  | .finite s m e =>
    let (n, d) := ratio m e
    if n % d = 0 then some (signed s (n / d)) else none
  | _ => none

def round? : Binary64 → Option Int
  | .finite s m e => let (n, d) := ratio m e; some (signed s (halfEven n d))
  | _ => none

/-! ## Arithmetic -/

def neg : Binary64 → Binary64
  | .nan => .nan
  | .infinite s => .infinite (!s)
  | .finite s m e => .finite (!s) m e

def add : Binary64 → Binary64 → Binary64
  | .nan, _ | _, .nan => .nan
  | .infinite s, .infinite t => if s = t then .infinite s else .nan
  | .infinite s, .finite .. => .infinite s
  | .finite .., .infinite t => .infinite t
  | .finite s m e, .finite t n f =>
    let low := min e f
    let total := signed s (m * twoTo (e - low).toNat) + signed t (n * twoTo (f - low).toNat)
    -- an exact zero is negative only as the sum of two negative zeros
    if total = 0 then zero (s && t) else ofDyadic (total < 0) total.natAbs low

def sub (x y : Binary64) : Binary64 := add x (neg y)

def mul : Binary64 → Binary64 → Binary64
  | .nan, _ | _, .nan => .nan
  | .infinite s, .infinite t => .infinite (s != t)
  | .infinite s, .finite t n _ | .finite t n _, .infinite s =>
    if n = 0 then .nan else .infinite (s != t)
  | .finite s m e, .finite t n f => ofDyadic (s != t) (m * n) (e + f)

def div? : Binary64 → Binary64 → Option Binary64
  | x, .finite t n f =>
    if n = 0 then none
    else
      match x with
      | .nan => some .nan
      | .infinite s => some (.infinite (s != t))
      | .finite s m e =>
        let shift := e - f
        some (nearest (s != t) (m * twoTo shift.toNat) (n * twoTo (-shift).toNat))
  | .nan, _ | _, .nan => some .nan
  | .infinite _, .infinite _ => some .nan
  | .finite s _ _, .infinite t => some (zero (s != t))

/-! ## Order -/

def signedLt (s : Bool) (m : Nat) (e : Int) (t : Bool) (n : Nat) (f : Int) : Bool :=
  let low := min e f
  decide (signed s (m * twoTo (e - low).toNat) < signed t (n * twoTo (f - low).toNat))

/-- Strictly less; false when either side is not a number. -/
def lt : Binary64 → Binary64 → Bool
  | .nan, _ | _, .nan => false
  | .infinite s, .infinite t => s && !t
  | .infinite s, .finite .. => s
  | .finite .., .infinite t => !t
  | .finite s m e, .finite t n f => signedLt s m e t n f

def le : Binary64 → Binary64 → Bool
  | .nan, _ | _, .nan => false
  | x, y => !lt y x

/-- The lesser of two; the first unless the second is strictly less. -/
def least (x y : Binary64) : Binary64 := if lt y x then y else x

/-- The greater of two; the first unless the second is strictly greater. -/
def greatest (x y : Binary64) : Binary64 := if lt x y then y else x

/-! ## Powers -/

/-- An exact dyadic number, not rounded. -/
structure Dyadic where
  significand : Nat
  exponent : Int

namespace Dyadic

/-- Whether the number is at least `2 ^ 1024`, beyond every double. -/
def isHuge (x : Dyadic) : Bool :=
  x.significand ≠ 0 && decide (1024 ≤ (x.significand.log2 : Int) + x.exponent)

def mul? (x y : Dyadic) : Option Dyadic :=
  let z : Dyadic := ⟨x.significand * y.significand, x.exponent + y.exponent⟩
  if z.isHuge then none else some z

/-- The exact power of a number that is at least one, by squaring; `none` as
soon as it is beyond every double. -/
def pow? (x : Dyadic) (n : Nat) : Option Dyadic :=
  if n = 0 then some ⟨1, 0⟩
  else
    match pow? x (n / 2) with
    | none => none
    | some half =>
      match mul? half half with
      | none => none
      | some square => if n % 2 = 0 then some square else mul? square x
termination_by n

/-- The same number with an odd significand, or zero. -/
def reduce (fuel : Nat) (x : Dyadic) : Dyadic :=
  match fuel with
  | 0 => x
  | fuel + 1 =>
    if x.significand ≠ 0 ∧ x.significand % 2 = 0 then reduce fuel ⟨x.significand / 2, x.exponent + 1⟩ else x

end Dyadic

/-- The power of a number that is at least one, rounded once; `none` when a
finite base gives a result beyond the largest double. -/
def pow? : Binary64 → Nat → Option Binary64
  | _, 0 => some (nearest false 1 1)
  | .nan, _ + 1 => some .nan
  | .infinite s, n + 1 => some (.infinite (s && n % 2 = 0))
  | .finite _ m e, n + 1 =>
    -- an odd significand keeps the exact powers as short as they can be
    match Dyadic.pow? (Dyadic.reduce 53 ⟨m, e⟩) (n + 1) with
    | none => none
    | some p =>
      match ofDyadic false p.significand p.exponent with
      | .infinite _ => none
      | x => some x

end Binary64

end BrowserPilot
