import BrowserPilot.Clock
import BrowserPilot.Proofs.Numeric.Order
import Mathlib.Order.Defs.PartialOrder

/-!
# The order of instants

Instants are ordered as they are passed, and the time from one to a later one is
not negative, however it is rounded.
-/

namespace BrowserPilot

instance : Preorder Instant where
  le a b := a.micros ≤ b.micros
  le_refl a := Int.le_refl a.micros
  le_trans _ _ _ := Int.le_trans

instance : DecidableLE Instant := fun a b => inferInstanceAs (Decidable (a.micros ≤ b.micros))

namespace Binary64

theorem mul_isNegative {x y : Binary64} (hx : x.isNegative = false) (hy : y.isNegative = false) :
    (x.mul y).isNegative = false := by
  cases x with
  | nan => rfl
  | infinite s =>
    cases y with
    | nan => rfl
    | infinite t => simp_all [mul, isNegative]
    | finite t n f =>
      simp only [mul]
      split
      · rfl
      · simp_all [isNegative]
  | finite s m e =>
    cases y with
    | nan => rfl
    | infinite t =>
      simp only [mul]
      split
      · rfl
      · simp_all [isNegative]
    | finite t n f =>
      obtain rfl : s = false := hx
      obtain rfl : t = false := hy
      exact nearest_isNegative _ _

theorem truncate?_nonneg {x : Binary64} (hx : x.isNegative = false) : 0 ≤ x.truncate?.getD 0 := by
  cases x with
  | nan | infinite s => exact Int.le_refl 0
  | finite s m e =>
    obtain rfl : s = false := hx
    exact Int.natCast_nonneg _

end Binary64

theorem Instant.millisecondsTo_nonneg {start stop : Instant} (h : start ≤ stop) : 0 ≤ start.millisecondsTo stop := by
  have hlength : ¬stop.micros - start.micros < 0 := Int.not_lt.mpr (Int.sub_nonneg_of_le h)
  refine Binary64.truncate?_nonneg (Binary64.mul_isNegative ?_ (Binary64.nearest_isNegative 1000 1))
  rw [Binary64.ofRatio, decide_eq_false hlength]
  exact Binary64.nearest_isNegative _ _

end BrowserPilot
