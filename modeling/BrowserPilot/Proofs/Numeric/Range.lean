import BrowserPilot.Proofs.Numeric.Order

/-!
# Rounded results and the range of doubles

Sums, products and powers of numbers that are not negative are rationals
rounded once. So they keep the order of the rationals, and they are infinite
from one rational on.
-/

namespace BrowserPilot.Binary64

/-! ## The range of doubles -/

/-- The least integer that is rounded to infinity, half a unit above the
largest double. -/
@[irreducible]
def rangeEnd : Nat := 2 ^ 1024 - 2 ^ 970

theorem rangeEnd_eq : (rangeEnd : ℚ) = 2 ^ (1024 : Int) - 2 ^ (970 : Int) := by
  have hle : 2 ^ 970 ≤ 2 ^ 1024 := pow_le_pow_right₀ one_le_two (by omega)
  unfold rangeEnd
  rw [Nat.cast_sub hle, Nat.cast_pow, Nat.cast_pow, Nat.cast_ofNat, zpow_ofNat, zpow_ofNat]

theorem rangeEnd_pos : 0 < rangeEnd := by decide +kernel

theorem rangeEnd_lt : (rangeEnd : ℚ) < 2 ^ (1024 : Int) := by
  rw [rangeEnd_eq]
  exact sub_lt_self _ (by positivity)

theorem nearest_rangeEnd : nearest false rangeEnd 1 = infinite false := by decide +kernel

theorem halfEven_le_of_lt {n d k : Nat} (hd : 0 < d) (h : (n / d : ℚ) < k + 1 / 2) : halfEven n d ≤ k := by
  have hlt : 2 * n < (2 * k + 1) * d := by
    rw [div_lt_iff₀ (by exact_mod_cast hd)] at h
    have hq : (2 * n : ℚ) < (2 * k + 1) * d := by linarith
    exact_mod_cast hq
  have hn := Nat.div_add_mod n d
  have hq : n / d < k + 1 := Nat.div_lt_of_lt_mul (by nlinarith)
  rcases Nat.lt_or_eq_of_le (Nat.lt_succ_iff.mp hq) with hlt' | heq
  · exact (halfEven_bounds n d).2.trans hlt'
  · have hr : 2 * (n % d) < d := by
      rw [heq] at hn
      nlinarith
    unfold halfEven
    simp [hr, heq]

/-- **The range of doubles**: what is rounded is finite exactly below the end. -/
theorem isFinite_nearest {n d : Nat} (hd : 0 < d) : (nearest false n d).isFinite = true ↔ (n / d : ℚ) < rangeEnd := by
  constructor
  · intro hfin
    by_contra hge
    have hle := nearest_mono Nat.one_pos hd (n := rangeEnd) (by simpa using not_lt.mp hge)
    rw [nearest_rangeEnd] at hle
    cases hx : nearest false n d with
    | nan => rw [hx] at hfin; cases hfin
    | infinite s => rw [hx] at hfin; cases hfin
    | finite s m e => rw [hx] at hle; cases hle
  · intro hlt
    rcases Nat.eq_zero_or_pos n with rfl | hn
    · rfl
    have hmag : magnitude n d < 1024 :=
      (zpow_lt_zpow_iff_right₀ (by norm_num)).mp (((magnitude_bounds hn hd).1.trans_lt hlt).trans rangeEnd_lt)
    have hexp : roundingExponent n d ≤ maxExponent := by
      unfold roundingExponent minExponent maxExponent
      omega
    obtain ⟨m, e, -, he, heq⟩ := nearest_pos hn hd
    have hmax : e ≤ maxExponent := by
      rw [he]
      rcases hexp.lt_or_eq with hlt' | htop
      · split <;> omega
      · -- at the greatest exponent there is no carry
        have hsig : roundingSignificand n d ≤ twoTo 53 - 1 := by
          refine halfEven_le_of_lt (Nat.mul_pos hd (twoTo_pos _)) ?_
          rw [scaled_eq, htop]
          calc (n / d : ℚ) * 2 ^ (-maxExponent) < rangeEnd * 2 ^ (-maxExponent) := by gcongr
            _ = ((twoTo 53 - 1 : Nat) : ℚ) + 1 / 2 := by
              rw [rangeEnd_eq, Nat.cast_sub (twoTo_pos 53), twoTo_eq, sub_mul, maxExponent, ← zpow_add₀ (by norm_num),
                ← zpow_add₀ (by norm_num)]
              norm_num
        have hpos := twoTo_pos 53
        rw [if_pos (by omega)]
        omega
    rw [heq, if_pos hmax]
    rfl

/-! ## The rationals of finite doubles -/

def value : Binary64 → ℚ
  | finite s m e => signed s m * 2 ^ e
  | _ => 0

theorem exists_eq_finite {x : Binary64} (hx : x.isFinite = true) : ∃ s m e, x = finite s m e := by
  cases x with
  | nan => cases hx
  | infinite s => cases hx
  | finite s m e => exact ⟨s, m, e, rfl⟩

theorem le_iff_value {x y : Binary64} (hx : x.isFinite = true) (hy : y.isFinite = true) :
    x.le y = true ↔ x.value ≤ y.value := by
  obtain ⟨s, m, e, rfl⟩ := exists_eq_finite hx
  obtain ⟨t, n, f, rfl⟩ := exists_eq_finite hy
  exact le_signed

theorem isNonneg_iff_value {x : Binary64} (hx : x.isFinite = true) : x.IsNonneg ↔ 0 ≤ x.value := by
  have hzero : (zero false).value = 0 := by simp [zero, value, signed]
  rw [← hzero]
  exact le_iff_value rfl hx

theorem signed_nonneg {s : Bool} {m : Nat} {e : Int} (h : 0 ≤ (finite s m e).value) : s = false ∨ m = 0 := by
  cases s with
  | false => exact .inl rfl
  | true =>
    have hpos : (0 : ℚ) < 2 ^ e := by positivity
    have hle : (0 : ℚ) ≤ (signed true m : Int) := nonneg_of_mul_nonneg_left h hpos
    right
    simpa [signed] using hle

/-! ## Rounded rationals -/

/-- A double is a rational rounded; a zero may have either sign. -/
inductive Rounds : Binary64 → ℚ → Prop where
  | zero (s : Bool) : Rounds (zero s) 0
  | nearest (n : Nat) {d : Nat} (hd : 0 < d) : Rounds (nearest false n d) (n / d)

theorem zero_le_zero (s t : Bool) : (zero s).le (zero t) = true := by cases s <;> cases t <;> rfl

namespace Rounds
variable {x y : Binary64} {p q : ℚ}

theorem isNonneg (h : Rounds x p) : x.IsNonneg := by
  cases h with
  | zero s => exact zero_le_zero false s
  | nearest n hd => exact isNonneg_nearest n _

theorem isFinite_iff (h : Rounds x p) : x.isFinite = true ↔ p < rangeEnd := by
  cases h with
  | zero s =>
    have hpos : (0 : ℚ) < rangeEnd := Nat.cast_pos.mpr rangeEnd_pos
    exact iff_of_true rfl hpos
  | nearest n hd => exact isFinite_nearest hd

theorem le_infinite (h : Rounds x p) : x.le (infinite false) = true := by
  cases h with
  | zero s => rfl
  | nearest n hd => exact nearest_le_infinite n _

theorem eq_infinite (h : Rounds x p) (hfin : x.isFinite = false) : x = infinite false := by
  have hle := h.le_infinite
  have hnonneg := h.isNonneg
  cases x with
  | nan => cases hle
  | infinite s =>
    cases s with
    | false => rfl
    | true => cases hnonneg
  | finite s m e => cases hfin

theorem mono (hx : Rounds x p) (hy : Rounds y q) (h : p ≤ q) : x.le y = true := by
  cases hx with
  | zero s => exact le_trans (zero_le_zero s false) hy.isNonneg
  | nearest n hd =>
    cases hy with
    | zero t =>
      have hn : n = 0 := by
        by_contra hne
        exact absurd h (not_le.mpr (div_pos (Nat.cast_pos.mpr (Nat.pos_of_ne_zero hne)) (Nat.cast_pos.mpr hd)))
      rw [hn]
      exact zero_le_zero false t
    | nearest n' hd' => exact nearest_mono hd hd' h

end Rounds

theorem ofNat_rounds (n : Nat) : Rounds (ofNat n) n := by
  have h := Rounds.nearest n Nat.one_pos
  rwa [Nat.cast_one, div_one] at h

theorem ofDyadic_rounds (m : Nat) (e : Int) : Rounds (ofDyadic false m e) (dyadic m e) := by
  have h := Rounds.nearest (m * twoTo e.toNat) (twoTo_pos (-e).toNat)
  rwa [Nat.cast_mul, mul_div_assoc, twoTo_quotient] at h

section
variable {x y : Binary64} (hx : x.isFinite = true) (hy : y.isFinite = true) (hx' : 0 ≤ x.value) (hy' : 0 ≤ y.value)
include hx hy hx' hy'

theorem mul_rounds : Rounds (x.mul y) (x.value * y.value) := by
  obtain ⟨s, m, e, rfl⟩ := exists_eq_finite hx
  obtain ⟨t, n, f, rfl⟩ := exists_eq_finite hy
  have hprod : (finite s m e).mul (finite t n f) = ofDyadic (s != t) (m * n) (e + f) := rfl
  by_cases hmn : m * n = 0
  · have hval : (finite s m e).value * (finite t n f).value = 0 := by
      rcases Nat.mul_eq_zero.mp hmn with rfl | rfl <;> simp [value, signed]
    rw [hprod, hval, hmn, ofDyadic, Nat.zero_mul]
    exact .zero _
  · have hs : s = false := (signed_nonneg hx').resolve_right fun h => hmn (by simp [h])
    have ht : t = false := (signed_nonneg hy').resolve_right fun h => hmn (by simp [h])
    subst hs ht
    obtain ⟨num, den, hden, hval, heq⟩ := mul_finite m e n f
    rw [heq]
    have h := Rounds.nearest num hden
    rw [hval] at h
    exact h

theorem add_rounds : Rounds (x.add y) (x.value + y.value) := by
  obtain ⟨s, m, e, rfl⟩ := exists_eq_finite hx
  obtain ⟨t, n, f, rfl⟩ := exists_eq_finite hy
  let low := min e f
  let total := signed s (m * twoTo (e - low).toNat) + signed t (n * twoTo (f - low).toNat)
  have hpow : (0 : ℚ) < 2 ^ low := by positivity
  have htotal : (total : ℚ) * 2 ^ low = (finite s m e).value + (finite t n f).value := by
    rw [Int.cast_add, signed_twoTo_sub (min_le_left e f), signed_twoTo_sub (min_le_right e f), ← add_mul, mul_assoc,
      ← zpow_add₀ (by norm_num), neg_add_cancel, zpow_zero, mul_one]
    rfl
  have hsum : (finite s m e).add (finite t n f) =
      if total = 0 then zero (s && t) else ofDyadic (total < 0) total.natAbs low := rfl
  rw [hsum, ← htotal]
  by_cases hzero : total = 0
  · rw [if_pos hzero, hzero, Int.cast_zero, zero_mul]
    exact .zero _
  · have hnonneg : 0 ≤ total := by
      have h := nonneg_of_mul_nonneg_left (htotal ▸ add_nonneg hx' hy') hpow
      exact_mod_cast h
    have hcast : (total : ℚ) = (total.natAbs : ℚ) := by
      rw [← Int.cast_natCast, Int.natAbs_of_nonneg hnonneg]
    rw [if_neg hzero, decide_eq_false (not_lt.mpr hnonneg), hcast]
    exact ofDyadic_rounds _ _

omit hy hy' in
/-- A sum keeps the order of the right term, which may be beyond the range. -/
theorem add_mono {z : Binary64} {p q : ℚ} (hy : Rounds y p) (hz : Rounds z q) (h : y.le z = true) :
    (x.add y).IsNonneg ∧ (x.add y).le (x.add z) = true := by
  have hinf : x.add (infinite false) = infinite false := by
    obtain ⟨s, m, e, rfl⟩ := exists_eq_finite hx
    rfl
  have hnonneg : ∀ {w : Binary64}, w.isFinite = true → w.IsNonneg → 0 ≤ w.value := fun hw => (isNonneg_iff_value hw).mp
  by_cases hfin : y.isFinite = true
  · have hsum := add_rounds hx hfin hx' (hnonneg hfin hy.isNonneg)
    refine ⟨hsum.isNonneg, ?_⟩
    by_cases hfin' : z.isFinite = true
    · apply hsum.mono (add_rounds hx hfin' hx' (hnonneg hfin' hz.isNonneg))
      exact add_le_add_right ((le_iff_value hfin hfin').mp h) _
    · rw [hz.eq_infinite (Bool.not_eq_true _ ▸ hfin'), hinf]
      exact hsum.le_infinite
  · have hy' := hy.eq_infinite (Bool.not_eq_true _ ▸ hfin)
    have hz' : z = infinite false := by
      apply hz.eq_infinite
      cases z with
      | nan => rfl
      | infinite s => rfl
      | finite s m e => rw [hy'] at h; cases h
    rw [hy', hz', hinf]
    exact ⟨rfl, rfl⟩

end

/-! ## The lesser of two -/

section
variable {x y z : Binary64}

theorem le_least (hx : z.le x = true) (hy : z.le y = true) : z.le (x.least y) = true := by
  unfold least
  split
  · exact hy
  · exact hx

theorem least_le_left (hx : x.le x = true) : (x.least y).le x = true := by
  unfold least
  split
  · rename_i hlt
    exact le_of_lt hlt
  · exact hx

theorem least_le_right (hx : x.le x = true) (hy : y.le y = true) : (x.least y).le y = true := by
  unfold least
  split
  · exact hy
  · rename_i hlt
    exact le_of_not_lt hy hx hlt

theorem least_mono {w : Binary64} (h : x.le y = true) (hx : x.le x = true) (hw : w.le w = true) :
    (x.least w).le (y.least w) = true :=
  le_least (le_trans (least_le_left hx) h) (least_le_right hx hw)

end

end BrowserPilot.Binary64
