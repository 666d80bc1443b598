import BrowserPilot.Numeric.Shortest
import BrowserPilot.Proofs.Numeric.Nearest

/-!
# The fewest digits read back

A decimal is read as the double that its value is rounded to, however the value
is split into digits and an exponent. The search for the fewest digits ends with
a decimal that reads back: at the latest at eighteen digits, which are nearer to
the double than a quarter of its last place.
-/

namespace BrowserPilot

/-! ## The values of decimals -/

theorem tenTo_eq (n : Nat) : (tenTo n : ℚ) = 10 ^ (n : Int) := by
  rw [zpow_natCast]
  exact Nat.cast_pow 10 n

theorem tenTo_quotient (e : Int) : (tenTo e.toNat : ℚ) / tenTo (-e).toNat = 10 ^ e := by
  rw [tenTo_eq, tenTo_eq, ← zpow_sub₀ (by norm_num)]
  congr 1
  omega

def Decimal.value (d : Decimal) : ℚ := d.digits * 10 ^ d.exponent

theorem Decimal.value_quotient (d : Decimal) :
    ((d.digits * tenTo d.exponent.toNat : Nat) : ℚ) / (tenTo (-d.exponent).toNat : Nat) = d.value := by
  rw [Nat.cast_mul, mul_div_assoc, tenTo_quotient]
  rfl

theorem tenTo_le_zpow {e : Int} (h : e ≤ 0) : (10 : ℚ) ^ e ≤ 2 ^ (3 * e) := by
  obtain ⟨n, rfl⟩ : ∃ n : Nat, e = -n := ⟨e.natAbs, by omega⟩
  rw [zpow_mul, zpow_neg, zpow_neg, zpow_natCast, zpow_natCast]
  apply inv_anti₀ (by positivity)
  exact pow_le_pow_left₀ (by norm_num) (by norm_num) n

namespace Binary64

theorem nearest_large (s : Bool) {d : Decimal} (hd : d.digits ≠ 0) (h : 400 < d.exponent) :
    nearest s (d.digits * tenTo d.exponent.toNat) (tenTo (-d.exponent).toNat) = .infinite s := by
  have hden := tenTo_pos (-d.exponent).toNat
  have hrounds := Rounds.nearest (d.digits * tenTo d.exponent.toNat) hden
  have hone : (1 : ℚ) ≤ d.digits := by exact_mod_cast Nat.pos_of_ne_zero hd
  have hend : (rangeEnd : ℚ) ≤ d.value := by
    calc (rangeEnd : ℚ) ≤ 2 ^ (1024 : Int) := rangeEnd_lt.le
      _ ≤ 2 ^ (3 * d.exponent) := zpow_le_zpow_right₀ one_le_two (by omega)
      _ = (2 ^ (3 : Int)) ^ d.exponent := zpow_mul _ _ _
      _ ≤ 10 ^ d.exponent := zpow_le_zpow_left₀ (by omega) (by norm_num) (by norm_num)
      _ ≤ d.value := le_mul_of_one_le_left (by positivity) hone
  have hinf := hrounds.eq_infinite (by
    rw [← Bool.not_eq_true, hrounds.isFinite_iff, d.value_quotient]
    exact not_lt.mpr hend)
  rw [nearest_withSign, hinf]
  rfl

theorem nearest_small (s : Bool) {d : Decimal} (hd : d.digits ≠ 0) (h : d.exponent < -400 - (d.digits.log2 : Int)) :
    nearest s (d.digits * tenTo d.exponent.toNat) (tenTo (-d.exponent).toNat) = zero s := by
  have hden := tenTo_pos (-d.exponent).toNat
  have hnum : 0 < d.digits * tenTo d.exponent.toNat := Nat.mul_pos (Nat.pos_of_ne_zero hd) (tenTo_pos _)
  have hvalue : d.value < 2 ^ (-1076 : Int) := by
    calc d.value < 2 ^ ((d.digits.log2 : Int) + 1) * 10 ^ d.exponent :=
          mul_lt_mul_of_pos_right (log2_bounds (Nat.pos_of_ne_zero hd)).2 (by positivity)
      _ ≤ 2 ^ ((d.digits.log2 : Int) + 1) * 2 ^ (3 * d.exponent) :=
          mul_le_mul_of_nonneg_left (tenTo_le_zpow (by omega)) (by positivity)
      _ = 2 ^ ((d.digits.log2 : Int) + 1 + 3 * d.exponent) := (zpow_add₀ two_ne_zero _ _).symm
      _ ≤ 2 ^ (-1076 : Int) := zpow_le_zpow_right₀ one_le_two (by omega)
  have hmag : magnitude (d.digits * tenTo d.exponent.toNat) (tenTo (-d.exponent).toNat) < -1076 := by
    have hle := (magnitude_bounds hnum hden).1
    rw [d.value_quotient] at hle
    exact (zpow_lt_zpow_iff_right₀ one_lt_two).mp (hle.trans_lt hvalue)
  have hexp : roundingExponent (d.digits * tenTo d.exponent.toNat) (tenTo (-d.exponent).toNat) = minExponent := by
    unfold roundingExponent minExponent
    omega
  have hsig : roundingSignificand (d.digits * tenTo d.exponent.toNat) (tenTo (-d.exponent).toNat) = 0 := by
    apply halfEven_eq_of_near (Nat.mul_pos hden (twoTo_pos _))
    rw [scaled_eq, d.value_quotient, hexp, Nat.cast_zero, sub_zero]
    have hnonneg : 0 ≤ d.value := mul_nonneg (Nat.cast_nonneg _) (by positivity)
    rw [abs_of_nonneg (mul_nonneg hnonneg (by positivity))]
    calc d.value * 2 ^ (-minExponent) < 2 ^ (-1076 : Int) * 2 ^ (-minExponent) :=
          mul_lt_mul_of_pos_right hvalue (by positivity)
      _ = 2 ^ (-2 : Int) := by rw [← zpow_add₀ two_ne_zero]; rfl
      _ < 1 / 2 := by norm_num
  rw [nearest_eq hnum, hexp, hsig]
  rfl

/-- The exponents that are settled without a power are settled as the power
would settle them. -/
theorem ofDecimal_eq_nearest (s : Bool) (d : Decimal) : ofDecimal s d.digits d.exponent =
    nearest s (d.digits * tenTo d.exponent.toNat) (tenTo (-d.exponent).toNat) := by
  unfold ofDecimal
  by_cases hzero : d.digits = 0
  · rw [if_pos hzero, hzero, Nat.zero_mul]
    rfl
  rw [if_neg hzero]
  by_cases hlarge : 400 < d.exponent
  · rw [if_pos hlarge, nearest_large s hzero hlarge]
  rw [if_neg hlarge]
  by_cases hsmall : d.exponent < -400 - (d.digits.log2 : Int)
  · rw [if_pos hsmall, nearest_small s hzero hsmall]
  · rw [if_neg hsmall]

theorem ofDecimal_congr (s : Bool) {d d' : Decimal} (h : d.value = d'.value) :
    ofDecimal s d.digits d.exponent = ofDecimal s d'.digits d'.exponent := by
  rw [ofDecimal_eq_nearest, ofDecimal_eq_nearest]
  apply nearest_congr (tenTo_pos _) s (tenTo_pos _)
  rw [d.value_quotient, d'.value_quotient, h]

theorem ofDecimal_of_near {s : Bool} {m : Nat} {e : Int} (h : (finite s m e).IsCanonical) (hm : 0 < m) {d : Decimal}
    (hnear : |d.value - dyadic m e| < 2 ^ (e - 2)) : ofDecimal s d.digits d.exponent = finite s m e := by
  rw [ofDecimal_eq_nearest]
  apply nearest_of_near h hm (tenTo_pos _)
  rwa [d.value_quotient]

end Binary64

/-! ## The search -/

namespace Decimal

open Binary64

theorem tenTo_le_iff {num den : Nat} (hd : 0 < den) (e : Int) :
    den * tenTo e.toNat ≤ num * tenTo (-e).toNat ↔ (10 : ℚ) ^ e ≤ num / den := by
  have hdq : (0 : ℚ) < den := by exact_mod_cast hd
  have hpos : (0 : ℚ) < tenTo (-e).toNat := by exact_mod_cast tenTo_pos _
  rw [← tenTo_quotient e, div_le_div_iff₀ hpos hdq, mul_comm (tenTo e.toNat : ℚ)]
  exact_mod_cast Iff.rfl

theorem orderFrom_le {num den : Nat} (hd : 0 < den) (fuel : Nat) {low : Int} (h : (10 : ℚ) ^ low ≤ num / den) :
    (10 : ℚ) ^ orderFrom fuel num den low ≤ num / den := by
  induction fuel generalizing low with
  | zero => exact h
  | succ fuel ih =>
    unfold orderFrom
    simp only
    by_cases hnext : den * tenTo (low + 1).toNat ≤ num * tenTo (-(low + 1)).toNat
    · rw [if_pos hnext]
      exact ih ((tenTo_le_iff hd _).mp hnext)
    · rw [if_neg hnext]
      exact h

theorem ten_zpow_le {p q : Nat} (hq : q ≠ 0) {g k : Int} (hgk : q * g ≤ p * k) (h : ((10 : ℚ) ^ p) ^ k ≤ (2 ^ q) ^ k) :
    (10 : ℚ) ^ g ≤ 2 ^ k := by
  have hpow : ((10 : ℚ) ^ g) ^ q ≤ (2 ^ k) ^ q := by
    calc ((10 : ℚ) ^ g) ^ q = 10 ^ (q * g) := by rw [← zpow_natCast, ← zpow_mul, mul_comm]
      _ ≤ 10 ^ (p * k) := zpow_le_zpow_right₀ (by norm_num) hgk
      _ = (10 ^ p) ^ k := by rw [zpow_mul, zpow_natCast]
      _ ≤ (2 ^ q) ^ k := h
      _ = (2 ^ k) ^ q := by rw [← zpow_natCast, ← zpow_natCast, ← zpow_mul, ← zpow_mul, mul_comm]
  exact le_of_pow_le_pow_left₀ hq (by positivity) hpow

/-- The logarithm of two lies between 59/196 and 28/93. -/
theorem guess_le {k : Int} (hlow : -1100 ≤ k) (hhigh : k ≤ 1100) : (10 : ℚ) ^ ((k * 1233).fdiv 4096 - 1) ≤ 2 ^ k := by
  rw [Int.fdiv_eq_ediv_of_nonneg _ (by norm_num)]
  by_cases hk : 0 ≤ k
  · apply ten_zpow_le (p := 59) (q := 196) (by norm_num) (by omega)
    exact zpow_le_zpow_left₀ hk (by norm_num) (by norm_num)
  · apply ten_zpow_le (p := 28) (q := 93) (by norm_num) (by omega)
    obtain ⟨n, rfl⟩ : ∃ n : Nat, k = -n := ⟨k.natAbs, by omega⟩
    rw [zpow_neg, zpow_neg, zpow_natCast, zpow_natCast]
    apply inv_anti₀ (by positivity)
    exact pow_le_pow_left₀ (by norm_num) (by norm_num) n

theorem order_le {num den : Nat} (hn : 0 < num) (hd : 0 < den) (hlow : (2 : ℚ) ^ (-1074 : Int) ≤ num / den)
    (hhigh : (num / den : ℚ) < 2 ^ (1024 : Int)) : (10 : ℚ) ^ order num den ≤ num / den := by
  have hdq : (0 : ℚ) < den := by exact_mod_cast hd
  obtain ⟨hn₁, hn₂⟩ := log2_bounds hn
  obtain ⟨hd₁, hd₂⟩ := log2_bounds hd
  let k : Int := (num.log2 : Int) - den.log2 - 1
  have hk : (2 : ℚ) ^ k ≤ num / den := by
    rw [le_div_iff₀ hdq]
    calc (2 : ℚ) ^ k * den ≤ 2 ^ k * 2 ^ ((den.log2 : Int) + 1) := by gcongr
      _ = 2 ^ (num.log2 : Int) := by rw [← zpow_add₀ two_ne_zero]; congr 1; omega
      _ ≤ num := hn₁
  have hk' : (num / den : ℚ) < 2 ^ (k + 2) := by
    rw [div_lt_iff₀ hdq]
    calc (num : ℚ) < 2 ^ ((num.log2 : Int) + 1) := hn₂
      _ = 2 ^ (k + 2) * 2 ^ (den.log2 : Int) := by rw [← zpow_add₀ two_ne_zero]; congr 1; omega
      _ ≤ 2 ^ (k + 2) * den := by gcongr
  have hlt : k < 1024 := (zpow_lt_zpow_iff_right₀ one_lt_two).mp (hk.trans_lt hhigh)
  have hgt : -1074 < k + 2 := (zpow_lt_zpow_iff_right₀ one_lt_two).mp (hlow.trans_lt hk')
  apply orderFrom_le hd
  exact (guess_le (by omega) (by omega)).trans hk

section
variable {m num den : Nat} {e : Int}

theorem onGrid_readsBack {x : Int} {d : Decimal} (h : onGrid m e num den x = some d) : readsBack m e d = true := by
  unfold onGrid at h
  simp only at h
  split at h
  · split at h
    · cases h
      assumption
    · split at h
      · cases h
        assumption
      · split at h
        · cases h
          assumption
        · cases h
          assumption
  · cases h
    assumption
  · cases h
    assumption
  · cases h

variable (h : (finite false m e).IsCanonical) (hm : 0 < m) (hd : 0 < den) (hv : (num / den : ℚ) = dyadic m e)
include h hm hd hv

theorem fine_readsBack {x : Int} (hx : (10 : ℚ) ^ x < 2 ^ (e - 1)) :
    readsBack m e ⟨halfEven (num * tenTo (-x).toNat) (den * tenTo x.toNat), x⟩ = true := by
  have hpos : (0 : ℚ) < 10 ^ x := by positivity
  have hscaled : ((num * tenTo (-x).toNat : Nat) / (den * tenTo x.toNat : Nat) : ℚ) * 10 ^ x = dyadic m e := by
    have hquot := tenTo_quotient (-x)
    rw [neg_neg] at hquot
    rw [Nat.cast_mul, Nat.cast_mul, mul_div_mul_comm, hquot, hv, mul_assoc, ← zpow_add₀ (by norm_num), neg_add_cancel,
      zpow_zero, mul_one]
  have hnear := halfEven_near (num * tenTo (-x).toNat) (Nat.mul_pos hd (tenTo_pos x.toNat))
  rw [readsBack, decide_eq_true_eq]
  apply ofDecimal_of_near h hm
  rw [value, ← hscaled, ← sub_mul, abs_mul, abs_of_pos hpos]
  calc _ ≤ 1 / 2 * (10 : ℚ) ^ x := mul_le_mul_of_nonneg_right hnear hpos.le
    _ < 1 / 2 * 2 ^ (e - 1) := mul_lt_mul_of_pos_left hx (by norm_num)
    _ = 2 ^ (e - 2) := by rw [show e - 1 = e - 2 + 1 by omega, zpow_add_one₀ two_ne_zero]; ring

theorem search_readsBack (fuel : Nat) {x : Int} (hx : (10 : ℚ) ^ (x - fuel) < 2 ^ (e - 1)) :
    readsBack m e (search m e num den fuel x) = true := by
  induction fuel generalizing x with
  | zero =>
    rw [Nat.cast_zero, sub_zero] at hx
    exact fine_readsBack h hm hd hv hx
  | succ fuel ih =>
    unfold search
    cases hgrid : onGrid m e num den x with
    | some d => exact onGrid_readsBack hgrid
    | none =>
      apply ih
      rwa [sub_sub, add_comm 1, ← Nat.cast_add_one]

end

/-- **The fewest digits read back.** -/
theorem ofDecimal_shortest {s : Bool} {m : Nat} {e : Int} (h : (finite s m e).IsCanonical) :
    ofDecimal s (shortest m e).digits (shortest m e).exponent = finite s m e := by
  have hden := twoTo_pos (-e).toNat
  unfold shortest ratio
  simp only
  rcases Nat.eq_zero_or_pos m with rfl | hm
  · have hleast : e = minExponent := h.2.2.2 (twoTo_pos 52)
    rw [Nat.zero_mul, if_pos rfl, hleast]
    rfl
  have hnum := Nat.mul_pos hm (twoTo_pos e.toNat)
  have hv : ((m * twoTo e.toNat : Nat) / (twoTo (-e).toNat : Nat) : ℚ) = dyadic m e := by
    rw [Nat.cast_mul, mul_div_assoc, twoTo_quotient]
    rfl
  have hpow : (0 : ℚ) < 2 ^ e := by positivity
  have hlow : (2 : ℚ) ^ (-1074 : Int) ≤ dyadic m e := by
    calc (2 : ℚ) ^ (-1074 : Int) ≤ 2 ^ e := zpow_le_zpow_right₀ one_le_two h.2.1
      _ ≤ m * 2 ^ e := le_mul_of_one_le_left hpow.le (by exact_mod_cast hm)
  have hbelow : dyadic m e < 2 ^ (53 + e) := by
    rw [zpow_add₀ two_ne_zero]
    exact mul_lt_mul_of_pos_right (by exact_mod_cast h.1) hpow
  have hhigh : dyadic m e < 2 ^ (1024 : Int) := by
    have hmax : e ≤ 971 := h.2.2.1
    exact hbelow.trans_le (zpow_le_zpow_right₀ one_le_two (by omega))
  have horder := order_le hnum hden (hv ▸ hlow) (hv ▸ hhigh)
  have hfine : (10 : ℚ) ^ (order (m * twoTo e.toNat) (twoTo (-e).toNat) - (17 : Nat)) < 2 ^ (e - 1) := by
    rw [hv] at horder
    calc _ = (10 : ℚ) ^ order (m * twoTo e.toNat) (twoTo (-e).toNat) * (10 ^ (17 : Nat))⁻¹ := by
          rw [zpow_sub₀ (by norm_num), zpow_natCast, div_eq_mul_inv]
      _ < 2 ^ (53 + e) * (10 ^ (17 : Nat))⁻¹ := mul_lt_mul_of_pos_right (horder.trans_lt hbelow) (by positivity)
      _ ≤ 2 ^ (53 + e) * 2 ^ (-54 : Int) := mul_le_mul_of_nonneg_left (by norm_num) (by positivity)
      _ = 2 ^ (e - 1) := by rw [← zpow_add₀ two_ne_zero]; congr 1; omega
  have hback := search_readsBack h hm hden hv 17 hfine
  rw [if_neg hnum.ne']
  rw [readsBack, decide_eq_true_eq, ofDecimal_eq_nearest] at hback
  rw [ofDecimal_eq_nearest, nearest_withSign, hback]
  rfl

theorem trim_value (fuel : Nat) (d : Decimal) : (trim fuel d).value = d.value := by
  induction fuel generalizing d with
  | zero => rfl
  | succ fuel ih =>
    unfold trim
    by_cases h : d.digits ≠ 0 ∧ d.digits % 10 = 0
    · have hdigits : ((d.digits / 10 : Nat) : ℚ) * 10 = d.digits := by
        exact_mod_cast Nat.div_mul_cancel (Nat.dvd_of_mod_eq_zero h.2)
      rw [if_pos h, ih, value, value, zpow_add_one₀ (by norm_num), ← hdigits]
      ring
    · rw [if_neg h]

theorem ofDecimal_written {s : Bool} {m : Nat} {e : Int} (h : (finite s m e).IsCanonical) (fuel : Nat) {d : Decimal}
    (hd : d.value = (trim fuel (shortest m e)).value) : ofDecimal s d.digits d.exponent = finite s m e := by
  rw [trim_value] at hd
  rw [ofDecimal_congr s hd, ofDecimal_shortest h]

end Decimal

end BrowserPilot
