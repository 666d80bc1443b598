import BrowserPilot.Numeric.Binary64
import Mathlib.Data.Rat.Cast.Order
import Mathlib.Algebra.Order.Field.Power
import Mathlib.Tactic.FieldSimp
import Mathlib.Tactic.Positivity
import Mathlib.Tactic.Linarith
import Mathlib.Tactic.Ring

/-!
# Rounding keeps the order

Finite doubles are compared by the rationals that they stand for. A larger
rational is never rounded to a smaller double, so that products of rounded
quotients keep the order as well.
-/

namespace BrowserPilot.Binary64

/-! ## The values of doubles -/

/-- The rational `significand · 2 ^ exponent`. -/
def dyadic (m : Nat) (e : Int) : ℚ := m * 2 ^ e

theorem twoTo_eq (n : Nat) : (twoTo n : ℚ) = 2 ^ (n : Int) := by
  rw [zpow_natCast]
  exact Nat.cast_pow 2 n

theorem signed_twoTo_sub {low e : Int} (h : low ≤ e) (s : Bool) (m : Nat) :
    ((signed s (m * twoTo (e - low).toNat) : Int) : ℚ) = signed s m * 2 ^ e * 2 ^ (-low) := by
  have hsigned : ∀ k : Nat, signed s (m * k) = signed s m * k := fun k => by cases s <;> simp [signed]
  have hcast : (((e - low).toNat : Nat) : Int) = e - low := Int.toNat_of_nonneg (by omega)
  rw [hsigned, Int.cast_mul, Int.cast_natCast, twoTo_eq, hcast, mul_assoc, ← zpow_add₀ (by norm_num), Int.sub_eq_add_neg]

/-- A power of two as it stands on the two sides of a quotient. -/
theorem twoTo_quotient (e : Int) : (twoTo e.toNat : ℚ) / twoTo (-e).toNat = 2 ^ e := by
  rw [twoTo_eq, twoTo_eq, ← zpow_sub₀ (by norm_num)]
  congr 1
  omega

theorem lt_signed {s t : Bool} {m n : Nat} {e f : Int} :
    (finite s m e).lt (finite t n f) = true ↔ (signed s m : ℚ) * 2 ^ e < signed t n * 2 ^ f := by
  have hpos : (0 : ℚ) < 2 ^ (-min e f) := by positivity
  simp only [lt, signedLt, decide_eq_true_eq]
  rw [← Int.cast_lt (R := ℚ), signed_twoTo_sub (min_le_left e f), signed_twoTo_sub (min_le_right e f)]
  exact mul_lt_mul_iff_left₀ hpos

theorem le_signed {s t : Bool} {m n : Nat} {e f : Int} :
    (finite s m e).le (finite t n f) = true ↔ (signed s m : ℚ) * 2 ^ e ≤ signed t n * 2 ^ f := by
  rw [← not_lt, ← lt_signed]
  simp only [le, Bool.not_eq_true', Bool.not_eq_true]

theorem le_finite {m n : Nat} {e f : Int} :
    (finite false m e).le (finite false n f) = true ↔ dyadic m e ≤ dyadic n f := le_signed

/-! ## Rounding to integers -/

theorem halfEven_one (n : Nat) : halfEven n 1 = n := by
  simp [halfEven, Nat.mod_one]

theorem halfEven_bounds (n d : Nat) : n / d ≤ halfEven n d ∧ halfEven n d ≤ n / d + 1 := by
  unfold halfEven
  simp only
  split
  · omega
  · split <;> omega

theorem halfEven_mono {n d n' d' : Nat} (hd : 0 < d) (hd' : 0 < d') (h : n * d' ≤ n' * d) :
    halfEven n d ≤ halfEven n' d' := by
  have hn := Nat.div_add_mod n d
  have hn' := Nat.div_add_mod n' d'
  have hq : n / d ≤ n' / d' := by
    rw [Nat.le_div_iff_mul_le hd', ← Nat.mul_le_mul_right_iff hd]
    have hle := Nat.div_mul_le_self n d
    nlinarith
  rcases Nat.lt_or_eq_of_le hq with hlt | heq
  · exact (halfEven_bounds n d).2.trans (Nat.le_trans hlt (halfEven_bounds n' d').1)
  · -- with the same integer part the remainders decide
    have hr : n % d * d' ≤ n' % d' * d := by
      rw [← heq] at hn'
      nlinarith
    have hup : d < 2 * (n % d) → d' < 2 * (n' % d') := fun hlt => by
      by_contra hge
      nlinarith
    have hdown : 2 * (n' % d') < d' → 2 * (n % d) < d := fun hlt => by
      by_contra hge
      nlinarith
    unfold halfEven
    simp only [← heq]
    split
    · split
      · exact Nat.le_refl _
      · split <;> omega
    · rename_i hge
      rw [if_neg fun hlt => hge (hdown hlt)]
      split
      · rename_i hlt
        rw [if_pos (hup hlt)]
      · split <;> omega

theorem halfEven_le {n d k : Nat} (hd : 0 < d) (h : (n / d : ℚ) ≤ k) : halfEven n d ≤ k := by
  have hle : n * 1 ≤ k * d := by
    rw [div_le_iff₀ (by exact_mod_cast hd)] at h
    exact_mod_cast (mul_one (n : ℚ)).le.trans h
  exact (halfEven_mono hd Nat.one_pos hle).trans_eq (halfEven_one k)

theorem le_halfEven {n d k : Nat} (hd : 0 < d) (h : (k : ℚ) ≤ n / d) : k ≤ halfEven n d := by
  have hle : k * d ≤ n * 1 := by
    rw [le_div_iff₀ (by exact_mod_cast hd)] at h
    exact_mod_cast h.trans (mul_one (n : ℚ)).ge
  exact (halfEven_one k).symm.trans_le (halfEven_mono Nat.one_pos hd hle)

/-! ## Rounding to doubles -/

theorem log2_bounds {n : Nat} (hn : 0 < n) : (2 : ℚ) ^ (n.log2 : Int) ≤ n ∧ (n : ℚ) < 2 ^ ((n.log2 : Int) + 1) := by
  have hlow := Nat.log2_self_le (Nat.pos_iff_ne_zero.mp hn)
  have hhigh := Nat.lt_log2_self (n := n)
  constructor
  · exact_mod_cast hlow
  · exact_mod_cast hhigh

theorem magnitude_bounds {num den : Nat} (hn : 0 < num) (hd : 0 < den) :
    (2 : ℚ) ^ magnitude num den ≤ num / den ∧ (num / den : ℚ) < 2 ^ (magnitude num den + 1) := by
  have hdq : (0 : ℚ) < den := by exact_mod_cast hd
  obtain ⟨hn₁, hn₂⟩ := log2_bounds hn
  obtain ⟨hd₁, hd₂⟩ := log2_bounds hd
  let k : Int := (num.log2 : Int) - den.log2
  have hlow : (2 : ℚ) ^ (k - 1) ≤ num / den := by
    rw [le_div_iff₀ hdq]
    calc (2 : ℚ) ^ (k - 1) * den ≤ 2 ^ (k - 1) * 2 ^ ((den.log2 : Int) + 1) := by gcongr
      _ = 2 ^ (num.log2 : Int) := by rw [← zpow_add₀ (by norm_num)]; congr 1; omega
      _ ≤ num := hn₁
  have hhigh : (num / den : ℚ) < 2 ^ (k + 1) := by
    rw [div_lt_iff₀ hdq]
    calc (num : ℚ) < 2 ^ ((num.log2 : Int) + 1) := hn₂
      _ = 2 ^ (k + 1) * 2 ^ (den.log2 : Int) := by rw [← zpow_add₀ (by norm_num)]; congr 1; omega
      _ ≤ 2 ^ (k + 1) * den := by gcongr
  have hcond : den * twoTo k.toNat ≤ num * twoTo (-k).toNat ↔ (2 : ℚ) ^ k ≤ num / den := by
    have hpos : (0 : ℚ) < twoTo (-k).toNat := by exact_mod_cast twoTo_pos _
    rw [← twoTo_quotient k, div_le_div_iff₀ hpos hdq, mul_comm (twoTo k.toNat : ℚ)]
    exact_mod_cast Iff.rfl
  change (2 : ℚ) ^ (if _ then k else k - 1) ≤ _ ∧ _ < (2 : ℚ) ^ ((if _ then k else k - 1) + 1)
  by_cases h : den * twoTo k.toNat ≤ num * twoTo (-k).toNat
  · rw [if_pos h]
    exact ⟨hcond.mp h, hhigh⟩
  · rw [if_neg h]
    exact ⟨hlow, by rw [sub_add_cancel]; exact not_le.mp fun hle => h (hcond.mpr hle)⟩

def roundingExponent (num den : Nat) : Int := max minExponent (magnitude num den - 52)

def roundingSignificand (num den : Nat) : Nat :=
  halfEven (num * twoTo (-roundingExponent num den).toNat) (den * twoTo (roundingExponent num den).toNat)

theorem scaled_eq (num den : Nat) (e : Int) :
    (((num * twoTo (-e).toNat : Nat) : ℚ) / (den * twoTo e.toNat : Nat)) = num / den * 2 ^ (-e) := by
  rw [← twoTo_quotient (-e), neg_neg, Nat.cast_mul, Nat.cast_mul, mul_div_mul_comm]

section
variable {num den : Nat} (hn : 0 < num) (hd : 0 < den)
include hn hd

theorem roundingSignificand_le : roundingSignificand num den ≤ twoTo 53 := by
  refine halfEven_le (Nat.mul_pos hd (twoTo_pos _)) ?_
  rw [scaled_eq, twoTo_eq]
  have hlt := (magnitude_bounds hn hd).2
  have hexp : magnitude num den + 1 ≤ ((53 : Nat) : Int) + roundingExponent num den := by
    unfold roundingExponent
    omega
  calc (num / den : ℚ) * 2 ^ (-roundingExponent num den)
      ≤ 2 ^ (((53 : Nat) : Int) + roundingExponent num den) * 2 ^ (-roundingExponent num den) := by
        gcongr
        exact hlt.le.trans (zpow_le_zpow_right₀ (by norm_num) hexp)
    _ = 2 ^ ((53 : Nat) : Int) := by rw [← zpow_add₀ (by norm_num)]; congr 1; omega

/-- Above the least exponent the significand is a full one. -/
theorem le_roundingSignificand (h : minExponent < roundingExponent num den) :
    twoTo 52 ≤ roundingSignificand num den := by
  refine le_halfEven (Nat.mul_pos hd (twoTo_pos _)) ?_
  rw [scaled_eq, twoTo_eq]
  have hle := (magnitude_bounds hn hd).1
  have hexp : magnitude num den = ((52 : Nat) : Int) + roundingExponent num den := by
    unfold roundingExponent at h ⊢
    omega
  calc (2 : ℚ) ^ ((52 : Nat) : Int) = 2 ^ magnitude num den * 2 ^ (-roundingExponent num den) := by
        rw [← zpow_add₀ (by norm_num), hexp]; congr 1; omega
    _ ≤ num / den * 2 ^ (-roundingExponent num den) := by gcongr

/-- A rounded positive number: its significand may be halved by a carry, which
raises the exponent. -/
theorem nearest_pos : ∃ m e, dyadic m e = dyadic (roundingSignificand num den) (roundingExponent num den) ∧
    e = roundingExponent num den + (if roundingSignificand num den < twoTo 53 then 0 else 1) ∧
      nearest false num den = if e ≤ maxExponent then .finite false m e else .infinite false := by
  have hle := roundingSignificand_le hn hd
  unfold nearest
  rw [if_neg (Nat.pos_iff_ne_zero.mp hn)]
  change ∃ m e, _ ∧ _ ∧ (if roundingSignificand num den < twoTo 53 then _ else _) = _
  by_cases hlt : roundingSignificand num den < twoTo 53
  · refine ⟨roundingSignificand num den, roundingExponent num den, rfl, by simp [hlt], ?_⟩
    rw [if_pos hlt]
    rfl
  · have heq : roundingSignificand num den = twoTo 53 := Nat.le_antisymm hle (Nat.not_lt.mp hlt)
    refine ⟨twoTo 52, roundingExponent num den + 1, ?_, by simp [hlt], ?_⟩
    · rw [heq, dyadic, dyadic, twoTo_eq, twoTo_eq, ← zpow_add₀ (by norm_num), ← zpow_add₀ (by norm_num)]
      congr 1
      omega
    · rw [if_neg hlt]
      rfl

end

/-! ## Order -/

def IsNonneg (x : Binary64) : Prop := (zero false).le x = true

theorem IsNonneg.not_lt {x : Binary64} (h : x.IsNonneg) : x.lt (zero false) = false := by
  cases x with
  | nan => cases h
  | infinite s => simpa [IsNonneg, le, zero] using h
  | finite s m e => simpa [IsNonneg, le, zero] using h

theorem isNonneg_nearest (num den : Nat) : (nearest false num den).IsNonneg := by
  have hfin : ∀ m e, (finite false m e).IsNonneg := by
    intro m e
    simp only [IsNonneg, le, lt, zero, signedLt, signed, Bool.not_eq_true']
    simpa using Int.mul_nonneg (Int.natCast_nonneg m) (Int.natCast_nonneg _)
  unfold nearest
  simp only
  split
  · exact hfin 0 _
  · split <;> split
    · exact hfin _ _
    · rfl
    · exact hfin _ _
    · rfl

theorem isNonneg_ofNat (n : Nat) : (ofNat n).IsNonneg := isNonneg_nearest n 1

section
variable {x y z : Binary64}

theorem le_trans (h : x.le y = true) (h' : y.le z = true) : x.le z = true := by
  cases x with
  | nan => cases h
  | infinite s => cases y <;> cases z <;> cases s <;> simp_all [le, lt]
  | finite s m e =>
    cases y with
    | nan => cases h
    | infinite t => cases z <;> simp_all [le, lt]
    | finite t n f =>
      cases z with
      | nan => cases h'
      | infinite u => exact h'
      | finite u k g => exact le_signed.mpr ((le_signed.mp h).trans (le_signed.mp h'))

theorem le_of_lt (h : x.lt y = true) : x.le y = true := by
  cases x with
  | nan => cases h
  | infinite s => cases y <;> simp_all [le, lt]
  | finite s m e =>
    cases y with
    | nan => cases h
    | infinite t => simp_all [le, lt]
    | finite t n f => exact le_signed.mpr (lt_signed.mp h).le

theorem le_of_not_lt (hx : x.le x = true) (hy : y.le y = true) (h : ¬x.lt y = true) : y.le x = true := by
  cases x with
  | nan => cases hx
  | infinite s => cases y <;> simp_all [le]
  | finite s m e => cases y <;> simp_all [le]

/-- Only numbers are comparable, so what is comparable to another is so to itself. -/
theorem le_self_of_le (h : x.le y = true) : y.le y = true := by
  cases y with
  | nan => cases x <;> cases h
  | infinite t => cases t <;> rfl
  | finite t n f => exact le_signed.mpr le_rfl

theorem le_greatest (h : x.le y = true) (z : Binary64) : x.le (y.greatest z) = true := by
  unfold greatest
  split
  · rename_i hlt
    exact le_trans h (le_of_lt hlt)
  · exact h

theorem le_greatest_right (hx : x.le x = true) (hy : y.le y = true) : y.le (x.greatest y) = true := by
  unfold greatest
  split
  · exact hy
  · rename_i hlt
    exact le_of_not_lt hx hy hlt

end

section
variable {n d n' d' : Nat} (hn : 0 < n) (hd : 0 < d) (hn' : 0 < n') (hd' : 0 < d') (h : (n / d : ℚ) ≤ n' / d')
include hn hd hn' hd' h

theorem roundingExponent_mono : roundingExponent n d ≤ roundingExponent n' d' := by
  have hlt : (2 : ℚ) ^ magnitude n d < 2 ^ (magnitude n' d' + 1) :=
    ((magnitude_bounds hn hd).1.trans h).trans_lt (magnitude_bounds hn' hd').2
  have hle : magnitude n d < magnitude n' d' + 1 := (zpow_lt_zpow_iff_right₀ (by norm_num)).mp hlt
  unfold roundingExponent
  omega

omit hn hn' in
theorem roundingSignificand_mono (he : roundingExponent n d = roundingExponent n' d') :
    roundingSignificand n d ≤ roundingSignificand n' d' := by
  have hpos := Nat.mul_pos hd (twoTo_pos (roundingExponent n d).toNat)
  have hpos' := Nat.mul_pos hd' (twoTo_pos (roundingExponent n' d').toNat)
  have hscaled := mul_le_mul_of_nonneg_right h (by positivity : (0 : ℚ) ≤ 2 ^ (-roundingExponent n d))
  rw [← scaled_eq, he, ← scaled_eq, div_le_div_iff₀ (by exact_mod_cast he ▸ hpos) (by exact_mod_cast hpos')] at hscaled
  unfold roundingSignificand
  rw [he]
  exact halfEven_mono (he ▸ hpos) hpos' (by exact_mod_cast hscaled)

theorem rounded_mono : dyadic (roundingSignificand n d) (roundingExponent n d) ≤
    dyadic (roundingSignificand n' d') (roundingExponent n' d') := by
  rcases (roundingExponent_mono hn hd hn' hd' h).eq_or_lt with he | hlt
  · have hs : (roundingSignificand n d : ℚ) ≤ roundingSignificand n' d' := by
      exact_mod_cast roundingSignificand_mono hd hd' h he
    unfold dyadic
    rw [he]
    gcongr
  · -- a power of two lies between the two
    have hmin : minExponent < roundingExponent n' d' := (le_max_left _ _).trans_lt hlt
    have hs : (roundingSignificand n d : ℚ) ≤ 2 ^ ((53 : Nat) : Int) := by
      rw [← twoTo_eq]
      exact_mod_cast roundingSignificand_le hn hd
    have hs' : (2 : ℚ) ^ ((52 : Nat) : Int) ≤ roundingSignificand n' d' := by
      rw [← twoTo_eq]
      exact_mod_cast le_roundingSignificand hn' hd' hmin
    unfold dyadic
    calc (roundingSignificand n d : ℚ) * 2 ^ roundingExponent n d
        ≤ 2 ^ ((53 : Nat) : Int) * 2 ^ roundingExponent n d := by gcongr
      _ = 2 ^ (((53 : Nat) : Int) + roundingExponent n d) := by rw [zpow_add₀ (by norm_num)]
      _ ≤ 2 ^ (((52 : Nat) : Int) + roundingExponent n' d') := zpow_le_zpow_right₀ (by norm_num) (by omega)
      _ = 2 ^ ((52 : Nat) : Int) * 2 ^ roundingExponent n' d' := by rw [zpow_add₀ (by norm_num)]
      _ ≤ roundingSignificand n' d' * 2 ^ roundingExponent n' d' := by gcongr

end

/-- **Rounding keeps the order** of numbers that are not negative. -/
theorem nearest_mono {n d n' d' : Nat} (hd : 0 < d) (hd' : 0 < d') (h : (n / d : ℚ) ≤ n' / d') :
    (nearest false n d).le (nearest false n' d') = true := by
  rcases Nat.eq_zero_or_pos n with rfl | hn
  · exact isNonneg_nearest n' d'
  have hn' : 0 < n' := by
    have hpos : (0 : ℚ) < n / d := by positivity
    have hquot := hpos.trans_le h
    rcases Nat.eq_zero_or_pos n' with rfl | hn'
    · simp at hquot
    · exact hn'
  have hmono := rounded_mono hn hd hn' hd' h
  have hexp := roundingExponent_mono hn hd hn' hd' h
  have hsig := roundingSignificand_mono hd hd' h
  obtain ⟨m, e, hm, he, hr⟩ := nearest_pos hn hd
  obtain ⟨m', e', hm', he', hr'⟩ := nearest_pos hn' hd'
  -- a carry on the left is one on the right, or the exponent there is larger
  have hee : e ≤ e' := by
    rw [he, he']
    split <;> split <;> omega
  rw [hr, hr']
  by_cases hfin' : e' ≤ maxExponent
  · rw [if_pos hfin', if_pos (hee.trans hfin')]
    exact le_finite.mpr (hm ▸ hm' ▸ hmono)
  · rw [if_neg hfin']
    split <;> rfl

theorem nearest_le_infinite (n d : Nat) : (nearest false n d).le (infinite false) = true := by
  have h := isNonneg_nearest n d
  cases hx : nearest false n d with
  | nan => rw [hx] at h; cases h
  | infinite s | finite s m e => simp [le, lt]

theorem mul_finite (m : Nat) (e : Int) (n : Nat) (f : Int) :
    ∃ num den : Nat, 0 < den ∧ (num / den : ℚ) = dyadic m e * dyadic n f ∧
      (finite false m e).mul (finite false n f) = nearest false num den := by
  refine ⟨m * n * twoTo (e + f).toNat, twoTo (-(e + f)).toNat, twoTo_pos _, ?_, rfl⟩
  rw [Nat.cast_mul, mul_div_assoc, twoTo_quotient, Nat.cast_mul, dyadic, dyadic, zpow_add₀ (by norm_num)]
  ring

theorem mul_mono {x y : Binary64} (hx : x.isNegative = false) (hy : y.isNegative = false) (h : x.le y = true) {n : Nat}
    (hn : 0 < n) (f : Int) : (x.mul (finite false n f)).le (y.mul (finite false n f)) = true := by
  have hinf : (infinite false).mul (finite false n f) = infinite false := by
    simp [mul, Nat.pos_iff_ne_zero.mp hn]
  cases x with
  | nan => cases h
  | infinite s =>
    cases hx
    cases y with
    | nan => cases h
    | infinite t => cases hy; rw [hinf]; rfl
    | finite t m' e' => cases hy; cases h
  | finite s m e =>
    cases hx
    obtain ⟨num, den, hden, hval, heq⟩ := mul_finite m e n f
    rw [heq]
    cases y with
    | nan => cases h
    | infinite t => cases hy; rw [hinf]; exact nearest_le_infinite num den
    | finite t m' e' =>
      cases hy
      obtain ⟨num', den', hden', hval', heq'⟩ := mul_finite m' e' n f
      rw [heq']
      refine nearest_mono hden hden' ?_
      rw [hval, hval']
      have hpos : 0 ≤ dyadic n f := by unfold dyadic; positivity
      exact mul_le_mul_of_nonneg_right (le_finite.mp h) hpos

theorem nearest_isNegative (n d : Nat) : (nearest false n d).isNegative = false := by
  unfold nearest
  simp only
  split
  · rfl
  · split <;> split <;> rfl

/-! ## Percentages -/

/-- The percentage that some out of `total` are, as it is computed. -/
def percentage (some total : Nat) : Binary64 := (nearest false some total).mul (ofNat 100)

theorem ofNat_hundred : ofNat 100 = finite false 7036874417766400 (-46) := by decide +kernel

theorem percentage_mono {a b total : Nat} (ht : 0 < total) (h : a ≤ b) :
    (percentage a total).le (percentage b total) = true := by
  have hle : (a / total : ℚ) ≤ b / total := by gcongr
  unfold percentage
  rw [ofNat_hundred]
  exact mul_mono (nearest_isNegative _ _) (nearest_isNegative _ _) (nearest_mono ht ht hle) (by decide) _

theorem percentage_le {a total : Nat} (ht : 0 < total) (h : a ≤ total) :
    (percentage a total).le (ofNat 100) = true := by
  have hle : (a / total : ℚ) ≤ (1 : Nat) / (1 : Nat) := by
    rw [div_le_div_iff₀ (by exact_mod_cast ht) (by norm_num)]
    exact_mod_cast (by omega)
  have hone : (nearest false 1 1).mul (ofNat 100) = ofNat 100 := by decide +kernel
  rw [← hone]
  unfold percentage
  rw [ofNat_hundred]
  exact mul_mono (nearest_isNegative _ _) (nearest_isNegative _ _) (nearest_mono ht Nat.one_pos hle) (by decide) _

theorem isNonneg_percentage (a total : Nat) : (percentage a total).IsNonneg := by
  have hpos := nearest_isNegative a total
  have hnum := isNonneg_nearest a total
  unfold percentage
  rw [ofNat_hundred]
  cases hx : nearest false a total with
  | nan => rw [hx] at hnum; cases hnum
  | infinite s => rw [hx] at hpos; cases hpos; rfl
  | finite s m e =>
    rw [hx] at hpos
    cases hpos
    obtain ⟨num, den, _, _, heq⟩ := mul_finite m e 7036874417766400 (-46)
    rw [heq]
    exact isNonneg_nearest num den

end BrowserPilot.Binary64
