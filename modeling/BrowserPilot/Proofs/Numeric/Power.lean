import BrowserPilot.Proofs.Numeric.Range

/-!
# Powers of doubles

The power of a number that is at least one is computed exactly, by squaring,
and given up as soon as a part of it is beyond every double. As no part is
larger than the whole, it is given up only where the power itself is out of
range.
-/

namespace BrowserPilot.Binary64

namespace Dyadic

def value (x : Dyadic) : ℚ := dyadic x.significand x.exponent

theorem isHuge_iff {x : Dyadic} : x.isHuge = true ↔ (2 : ℚ) ^ (1024 : Int) ≤ x.value := by
  have hpos : (0 : ℚ) < 2 ^ x.exponent := by positivity
  rcases Nat.eq_zero_or_pos x.significand with hzero | hsig
  · have hval : x.value = 0 := by simp [value, dyadic, hzero]
    have hlt : x.value < 2 ^ (1024 : Int) := by rw [hval]; positivity
    exact iff_of_false (by simp [isHuge, hzero]) (not_le.mpr hlt)
  obtain ⟨hlow, hhigh⟩ := log2_bounds hsig
  have hlow' : (2 : ℚ) ^ ((x.significand.log2 : Int) + x.exponent) ≤ x.value := by
    rw [zpow_add₀ (by norm_num)]
    exact mul_le_mul_of_nonneg_right hlow hpos.le
  have hhigh' : x.value < 2 ^ ((x.significand.log2 : Int) + x.exponent + 1) := by
    rw [add_right_comm, zpow_add₀ (by norm_num)]
    exact mul_lt_mul_of_pos_right hhigh hpos
  simp only [isHuge, Bool.and_eq_true, decide_eq_true_eq, Nat.pos_iff_ne_zero.mp hsig, ne_eq, not_false_eq_true,
    true_and]
  constructor
  · intro h
    exact (zpow_le_zpow_right₀ (by norm_num) h).trans hlow'
  · intro h
    exact Int.lt_add_one_iff.mp ((zpow_lt_zpow_iff_right₀ (by norm_num)).mp (h.trans_lt hhigh'))

/-- The outcome of an exact computation of a rational, which is given up beyond
every double. -/
inductive Yields : Option Dyadic → ℚ → Prop where
  | exact (z : Dyadic) (h : z.value < 2 ^ (1024 : Int)) : Yields (some z) z.value
  | beyond {q : ℚ} (h : 2 ^ (1024 : Int) ≤ q) : Yields none q

theorem Yields.value_eq {z : Dyadic} {q : ℚ} (h : Yields (some z) q) : z.value = q := by
  cases h with
  | exact z h => rfl

theorem Yields.beyond_le {q : ℚ} (h : Yields none q) : 2 ^ (1024 : Int) ≤ q := by
  cases h with
  | beyond h => exact h

theorem mul?_yields (x y : Dyadic) : Yields (x.mul? y) (x.value * y.value) := by
  let z : Dyadic := ⟨x.significand * y.significand, x.exponent + y.exponent⟩
  have hval : z.value = x.value * y.value := by
    simp only [z, value, dyadic, Nat.cast_mul, zpow_add₀ (two_ne_zero (α := ℚ))]
    ring
  have hmul : x.mul? y = if z.isHuge then none else some z := rfl
  rw [hmul, ← hval]
  split
  · rename_i huge
    exact .beyond (isHuge_iff.mp huge)
  · rename_i small
    exact .exact z (not_le.mp fun h => small (isHuge_iff.mpr h))

/-- **Powers by squaring**: the exact power, unless it is beyond every double. -/
theorem pow?_yields {x : Dyadic} (hx : 1 ≤ x.value) (n : Nat) : Yields (x.pow? n) (x.value ^ n) := by
  induction n using Nat.strong_induction_on with
  | _ n ih =>
    rw [pow?]
    by_cases hzero : n = 0
    · have hone : (⟨1, 0⟩ : Dyadic).value = 1 := by simp [value, dyadic]
      rw [if_pos hzero, hzero, pow_zero, ← hone]
      exact .exact _ (by rw [hone]; exact one_lt_zpow₀ one_lt_two (by norm_num))
    rw [if_neg hzero]
    -- a part of the power that is beyond every double takes the power with it
    have hbeyond {k : Nat} (hk : k ≤ n) (h : Yields none (x.value ^ k)) : Yields none (x.value ^ n) :=
      .beyond (h.beyond_le.trans (pow_le_pow_right₀ hx hk))
    have hhalf := ih (n / 2) (by omega)
    cases hpow : x.pow? (n / 2) with
    | none => exact hbeyond (by omega) (hpow ▸ hhalf)
    | some half =>
      rw [hpow] at hhalf
      have hsquare : Yields (half.mul? half) (x.value ^ (2 * (n / 2))) := by
        rw [two_mul, pow_add, ← hhalf.value_eq]
        exact mul?_yields half half
      cases hmul : half.mul? half with
      | none => simpa only [hmul] using hbeyond (by omega) (hmul ▸ hsquare)
      | some square =>
        simp only [hmul]
        rw [hmul] at hsquare
        by_cases heven : n % 2 = 0
        · have hn : 2 * (n / 2) = n := by omega
          rw [if_pos heven, ← hn]
          exact hsquare
        · have hn : n = 2 * (n / 2) + 1 := by omega
          rw [if_neg heven, hn, pow_succ, ← hsquare.value_eq]
          exact mul?_yields square x

theorem reduce_value (fuel : Nat) (x : Dyadic) : (x.reduce fuel).value = x.value := by
  induction fuel generalizing x with
  | zero => rfl
  | succ fuel ih =>
    rw [reduce]
    split
    · rename_i heven
      have hhalf : x.significand = x.significand / 2 * 2 := by omega
      have hsig : (x.significand : ℚ) = (x.significand / 2 : Nat) * 2 := by exact_mod_cast hhalf
      rw [ih]
      simp only [value, dyadic]
      rw [hsig, mul_assoc, zpow_add_one₀ (by norm_num), mul_comm (2 : ℚ) (2 ^ x.exponent)]
    · rfl

end Dyadic

/-- A finite number that is at least one has exactly the powers that are in
range, each rounded once. -/
theorem pow?_cases {x : Binary64} (hx : x.isFinite = true) (hone : 1 ≤ x.value) (n : Nat) :
    (∃ p, x.pow? n = some p ∧ p.isFinite = true ∧ Rounds p (x.value ^ n)) ∨
      (x.pow? n = none ∧ rangeEnd ≤ x.value ^ n) := by
  obtain ⟨s, m, e, rfl⟩ := exists_eq_finite hx
  have hs : s = false := by
    refine (signed_nonneg (zero_le_one.trans hone)).resolve_right fun hm => ?_
    simp only [hm, value, signed] at hone
    cases s <;> norm_num at hone
  subst hs
  cases n with
  | zero =>
    refine .inl ⟨nearest false 1 1, rfl, rfl, ?_⟩
    simpa using Rounds.nearest 1 Nat.one_pos
  | succ n =>
    have hval : (Dyadic.reduce 53 ⟨m, e⟩).value = (finite false m e).value := Dyadic.reduce_value 53 ⟨m, e⟩
    have hyields : Dyadic.Yields (Dyadic.pow? (Dyadic.reduce 53 ⟨m, e⟩) (n + 1)) ((finite false m e).value ^ (n + 1)) :=
      hval ▸ Dyadic.pow?_yields (hval.symm ▸ hone) (n + 1)
    cases hpower : Dyadic.pow? (Dyadic.reduce 53 ⟨m, e⟩) (n + 1) with
    | none =>
      rw [hpower] at hyields
      exact .inr ⟨by simp only [pow?, hpower], rangeEnd_lt.le.trans hyields.beyond_le⟩
    | some z =>
      rw [hpower] at hyields
      have hround : Rounds (ofDyadic false z.significand z.exponent) z.value := ofDyadic_rounds z.significand z.exponent
      rw [hyields.value_eq] at hround
      cases hr : ofDyadic false z.significand z.exponent with
      | nan => rw [hr] at hround; cases hround.isNonneg
      | infinite t =>
        rw [hr] at hround
        exact .inr ⟨by simp only [pow?, hpower, hr], not_lt.mp fun h => by cases hround.isFinite_iff.mpr h⟩
      | finite t k f =>
        rw [hr] at hround
        exact .inl ⟨_, by simp only [pow?, hpower, hr], rfl, hround⟩

end BrowserPilot.Binary64
