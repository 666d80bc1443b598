import BrowserPilot.Numeric.Binary64

/-!
# The fewest digits that read back

A finite double is written with the least number of decimal digits from which
`nearest` gives the same double, and with the nearest of the decimals of that
length. A `NumberStyle` says how the digits are laid out.
-/

namespace BrowserPilot

/-- Decimal digits, a value `digits · 10 ^ exponent`. -/
structure Decimal where
  digits : Nat
  exponent : Int
  deriving DecidableEq, Repr

namespace Decimal

/-- The exponent of the highest power of ten that is at most `num / den`,
searched upwards from `low`. -/
def orderFrom (fuel : Nat) (num den : Nat) (low : Int) : Int :=
  match fuel with
  | 0 => low
  | fuel + 1 =>
    let next := low + 1
    if den * tenTo next.toNat ≤ num * tenTo (-next).toNat then orderFrom fuel num den next else low

def order (num den : Nat) : Int :=
  -- `1233 / 4096` is just below the decimal logarithm of two, so that the guess is never too high
  let guess := (((num.log2 : Int) - (den.log2 : Int) - 1) * 1233).fdiv 4096 - 1
  orderFrom 5 num den guess

/-- Whether a decimal reads back as the double with this significand and exponent. -/
def readsBack (m : Nat) (e : Int) (d : Decimal) : Bool :=
  decide (Binary64.ofDecimal false d.digits d.exponent = .finite false m e)

/-- The better of the two decimals next to `num / den` on the grid
`10 ^ exponent`, if one of them reads back. -/
def onGrid (m : Nat) (e : Int) (num den : Nat) (exponent : Int) : Option Decimal :=
  let n := num * tenTo (-exponent).toNat
  let d := den * tenTo exponent.toNat
  let below : Decimal := ⟨n / d, exponent⟩
  let above : Decimal := ⟨n / d + 1, exponent⟩
  let r := n % d
  match readsBack m e below, readsBack m e above with
  | true, true =>
    -- both read back: the nearer one counts, and half way the even one
    if 2 * r < d then some below
    else if d < 2 * r then some above
    else if (n / d) % 2 = 0 then some below else some above
  | true, false => some below
  | false, true => some above
  | false, false => none

/-- The first grid with a decimal that reads back, from coarse to fine. -/
def search (m : Nat) (e : Int) (num den : Nat) : Nat → Int → Decimal
  | 0, exponent => ⟨Binary64.halfEven (num * tenTo (-exponent).toNat) (den * tenTo exponent.toNat), exponent⟩
  | fuel + 1, exponent =>
    match onGrid m e num den exponent with
    | some d => d
    | none => search m e num den fuel (exponent - 1)

/-- The fewest digits that read back as `m · 2 ^ e`. -/
def shortest (m : Nat) (e : Int) : Decimal :=
  let (num, den) := Binary64.ratio m e
  -- seventeen digits tell any two doubles apart
  if num = 0 then ⟨0, 0⟩ else search m e num den 17 (order num den)

/-- The decimal of `places` significant digits nearest to `num / den`. -/
def rounded (num den places : Nat) : Decimal :=
  let top := order num den
  let exponent := top - (places : Int) + 1
  let digits := Binary64.halfEven (num * tenTo (-exponent).toNat) (den * tenTo exponent.toNat)
  if digits = tenTo places then ⟨tenTo (places - 1), exponent + 1⟩ else ⟨digits, exponent⟩

def trim (fuel : Nat) (d : Decimal) : Decimal :=
  match fuel with
  | 0 => d
  | fuel + 1 => if d.digits ≠ 0 ∧ d.digits % 10 = 0 then trim fuel ⟨d.digits / 10, d.exponent + 1⟩ else d

end Decimal

structure NumberStyle where
  /-- The least order of magnitude written positionally. -/
  low : Int
  /-- The greatest order of magnitude written positionally. -/
  high : Int
  /-- The least number of digits of a written exponent. -/
  exponentDigits : Nat
  /-- Whether a positional whole number ends in `.0`. -/
  keepsFraction : Bool

namespace NumberStyle

def zeros (n : Nat) : String := String.ofList (List.replicate n '0')

def exponentText (f : NumberStyle) (e : Int) : String :=
  let body := toString e.natAbs
  (if e < 0 then "e-" else "e+") ++ zeros (f.exponentDigits - body.length) ++ body

def layout (f : NumberStyle) (d : Decimal) : String :=
  let text := toString d.digits
  let order : Int := d.exponent + (text.length : Int) - 1
  if d.digits = 0 then (if f.keepsFraction then "0.0" else "0")
  else if f.low ≤ order ∧ order ≤ f.high then
    if 0 ≤ d.exponent then text ++ zeros d.exponent.toNat ++ (if f.keepsFraction then ".0" else "")
    else if 0 ≤ order then
      String.ofList (text.toList.take (order.toNat + 1)) ++ "." ++ String.ofList (text.toList.drop (order.toNat + 1))
    else "0." ++ zeros ((-order).toNat - 1) ++ text
  else
    match text.toList with
    | [] => ""
    | [c] => String.singleton c ++ f.exponentText order
    | c :: rest => String.singleton c ++ "." ++ String.ofList rest ++ f.exponentText order

/-- Numbers as reports and issue texts show them. -/
def report : NumberStyle := ⟨-4, 15, 2, true⟩

/-- Numbers as written into JSON documents. -/
def document : NumberStyle := ⟨-5, 15, 1, true⟩

/-- Numbers of at most six digits, for short listings. -/
def brief : NumberStyle := ⟨-4, 5, 2, false⟩

end NumberStyle

namespace Binary64

def text (f : NumberStyle) : Binary64 → String
  | .nan => "nan"
  | .infinite s => if s then "-inf" else "inf"
  | .finite s m e =>
    let d := Decimal.trim 20 (Decimal.shortest m e)
    (if s then "-" else "") ++ f.layout d

def briefText : Binary64 → String
  | .nan => "nan"
  | .infinite s => if s then "-inf" else "inf"
  | .finite s m e =>
    let (num, den) := ratio m e
    let d := if num = 0 then ⟨0, 0⟩ else Decimal.trim 20 (Decimal.rounded num den 6)
    (if s then "-" else "") ++ NumberStyle.brief.layout d

/-- Rounds to one decimal place from the exact value, a half going to the
even neighbour. -/
def toTenth : Binary64 → Binary64
  | .finite s m e =>
    let (num, den) := ratio m e
    nearest s (halfEven (num * 10) den) 10
  | x => x

end Binary64

end BrowserPilot
