import BrowserPilot.Proofs.Numeric.Range

/-!
# What is near a double is rounded to it

Rounding depends on a rational alone and not on the quotient that writes it. A
rational that is nearer to a double than a quarter of its last place is rounded
to this double, so that a decimal that is long enough is read as it.
-/

namespace BrowserPilot.Binary64

/-! ## Integers nearby -/

theorem halfEven_near (n : Nat) {d : Nat} (hd : 0 < d) : |(halfEven n d : ℚ) - n / d| ≤ 1 / 2 := by
  have hdq : (0 : ℚ) < d := by exact_mod_cast hd
  have hn : (n : ℚ) = d * (n / d : Nat) + (n % d : Nat) := by exact_mod_cast (Nat.div_add_mod n d).symm
  have hquot : (n / d : ℚ) = (n / d : Nat) + (n % d : Nat) / d := by
    rw [hn]
    field_simp
  have hr : (0 : ℚ) ≤ (n % d : Nat) := Nat.cast_nonneg _
  rw [abs_le, hquot, le_sub_iff_add_le, sub_le_iff_le_add]
  unfold halfEven
  simp only
  by_cases hdown : 2 * (n % d) < d
  · have hlt : ((n % d : Nat) / d : ℚ) ≤ 1 / 2 := by
      rw [div_le_div_iff₀ hdq two_pos]
      exact_mod_cast (by omega : n % d * 2 ≤ 1 * d)
    have hpos : (0 : ℚ) ≤ (n % d : Nat) / d := div_nonneg hr hdq.le
    rw [if_pos hdown]
    constructor <;> linarith
  · have hge : (1 / 2 : ℚ) ≤ (n % d : Nat) / d := by
      rw [div_le_div_iff₀ two_pos hdq]
      exact_mod_cast (by omega : 1 * d ≤ n % d * 2)
    have hone : ((n % d : Nat) / d : ℚ) ≤ 1 := (div_le_one hdq).mpr (by exact_mod_cast (Nat.mod_lt n hd).le)
    rw [if_neg hdown]
    by_cases hup : d < 2 * (n % d)
    · rw [if_pos hup, Nat.cast_add, Nat.cast_one]
      constructor <;> linarith
    · -- exactly a half
      have hhalf : ((n % d : Nat) / d : ℚ) = 1 / 2 := by
        rw [div_eq_div_iff hdq.ne' two_ne_zero]
        exact_mod_cast (by omega : n % d * 2 = 1 * d)
      have hodd : n / d % 2 < 2 := Nat.mod_lt _ two_pos
      have hle : ((n / d % 2 : Nat) : ℚ) ≤ 1 := by exact_mod_cast Nat.lt_succ_iff.mp hodd
      have hpos : (0 : ℚ) ≤ (n / d % 2 : Nat) := Nat.cast_nonneg _
      rw [if_neg hup, Nat.cast_add, hhalf]
      constructor <;> linarith

theorem halfEven_eq_of_near {n d k : Nat} (hd : 0 < d) (h : |(n / d : ℚ) - k| < 1 / 2) : halfEven n d = k := by
  have hnear := halfEven_near n hd
  rw [abs_le] at hnear
  rw [abs_lt] at h
  have hlow : (k : ℚ) < halfEven n d + 1 := by linarith
  have hhigh : (halfEven n d : ℚ) < k + 1 := by linarith
  have hlow' : k < halfEven n d + 1 := by exact_mod_cast hlow
  have hhigh' : halfEven n d < k + 1 := by exact_mod_cast hhigh
  omega

/-! ## Rationals alone -/

theorem halfEven_congr {n d n' d' : Nat} (hd : 0 < d) (hd' : 0 < d') (h : (n / d : ℚ) = n' / d') :
    halfEven n d = halfEven n' d' := by
  rw [div_eq_div_iff (by exact_mod_cast hd.ne') (by exact_mod_cast hd'.ne')] at h
  have hcross : n * d' = n' * d := by exact_mod_cast h
  exact Nat.le_antisymm (halfEven_mono hd hd' hcross.le) (halfEven_mono hd' hd hcross.ge)

section
variable {n d n' d' : Nat} (hn : 0 < n) (hd : 0 < d)
include hn hd

theorem magnitude_eq {k : Int} (hlow : (2 : ℚ) ^ k ≤ n / d) (hhigh : (n / d : ℚ) < 2 ^ (k + 1)) : magnitude n d = k := by
  obtain ⟨hlow', hhigh'⟩ := magnitude_bounds hn hd
  have hle : k < magnitude n d + 1 := (zpow_lt_zpow_iff_right₀ one_lt_two).mp (hlow.trans_lt hhigh')
  have hge : magnitude n d < k + 1 := (zpow_lt_zpow_iff_right₀ one_lt_two).mp (hlow'.trans_lt hhigh)
  omega

omit hn hd in
/-- A significand and an exponent as a double, after a carry if there is one. -/
def carried (negative : Bool) (m : Nat) (e : Int) : Binary64 :=
  if m < twoTo 53 then (if e ≤ maxExponent then .finite negative m e else .infinite negative)
  else if e + 1 ≤ maxExponent then .finite negative (twoTo 52) (e + 1) else .infinite negative

omit hd in
theorem nearest_eq (s : Bool) : nearest s n d = carried s (roundingSignificand n d) (roundingExponent n d) :=
  if_neg (Nat.pos_iff_ne_zero.mp hn)

omit hn in
/-- **Rounding depends on the rational alone.** -/
theorem nearest_congr (s : Bool) (hd' : 0 < d') (h : (n / d : ℚ) = n' / d') : nearest s n d = nearest s n' d' := by
  have hdq : (0 : ℚ) < d := by exact_mod_cast hd
  have hdq' : (0 : ℚ) < d' := by exact_mod_cast hd'
  rcases Nat.eq_zero_or_pos n with rfl | hn
  · have hzero : n' = 0 := by
      rw [Nat.cast_zero, zero_div, eq_comm, div_eq_zero_iff] at h
      exact_mod_cast h.resolve_right hdq'.ne'
    rw [hzero]
    rfl
  · have hn' : 0 < n' := by
      have hpos : (0 : ℚ) < n' / d' := h ▸ div_pos (by exact_mod_cast hn) hdq
      exact_mod_cast (div_pos_iff_of_pos_right hdq').mp hpos
    obtain ⟨hlow, hhigh⟩ := magnitude_bounds hn hd
    have hmag : magnitude n' d' = magnitude n d := magnitude_eq hn' hd' (h ▸ hlow) (h ▸ hhigh)
    have hexp : roundingExponent n' d' = roundingExponent n d := by rw [roundingExponent, hmag, roundingExponent]
    have hsig : roundingSignificand n' d' = roundingSignificand n d := by
      apply halfEven_congr (Nat.mul_pos hd' (twoTo_pos _)) (Nat.mul_pos hd (twoTo_pos _))
      rw [scaled_eq, scaled_eq, hexp, h]
    rw [nearest_eq hn, nearest_eq hn', hexp, hsig]

end

def withSign (negative : Bool) : Binary64 → Binary64
  | .nan => .nan
  | .infinite _ => .infinite negative
  | .finite _ m e => .finite negative m e

theorem nearest_withSign (s : Bool) (n d : Nat) : nearest s n d = (nearest false n d).withSign s := by
  rcases Nat.eq_zero_or_pos n with rfl | hn
  · rfl
  · rw [nearest_eq hn, nearest_eq hn]
    unfold carried
    split
    · split <;> rfl
    · split <;> rfl

/-! ## Doubles -/

/-- A finite double as it is stored: with a full significand, or at the least exponent. -/
def IsCanonical : Binary64 → Prop
  | .finite _ m e => m < twoTo 53 ∧ minExponent ≤ e ∧ e ≤ maxExponent ∧ (m < twoTo 52 → e = minExponent)
  | _ => False

instance : DecidablePred IsCanonical
  | .finite _ m e =>
    inferInstanceAs (Decidable (m < twoTo 53 ∧ minExponent ≤ e ∧ e ≤ maxExponent ∧ (m < twoTo 52 → e = minExponent)))
  | .nan => isFalse id
  | .infinite _ => isFalse id

theorem IsCanonical.isFinite {x : Binary64} (h : x.IsCanonical) : x.isFinite = true := by
  cases x with
  | finite s m e => rfl
  | _ => cases h

/-- What arithmetic gives is stored as it should be. -/
theorem isCanonical_nearest {s : Bool} {n d : Nat} (hd : 0 < d) (h : (nearest s n d).isFinite = true) :
    (nearest s n d).IsCanonical := by
  rcases Nat.eq_zero_or_pos n with rfl | hn
  · exact (by decide +kernel : ∀ s : Bool, (zero s).IsCanonical) s
  have hmin : minExponent ≤ roundingExponent n d := le_max_left _ _
  rw [nearest_eq hn] at h ⊢
  unfold carried at h ⊢
  by_cases hlt : roundingSignificand n d < twoTo 53
  · rw [if_pos hlt] at h ⊢
    by_cases hexp : roundingExponent n d ≤ maxExponent
    · rw [if_pos hexp]
      refine ⟨hlt, hmin, hexp, fun hsmall => ?_⟩
      by_contra hne
      have hfull := le_roundingSignificand hn hd (by omega)
      omega
    · rw [if_neg hexp] at h
      cases h
  · rw [if_neg hlt] at h ⊢
    by_cases hexp : roundingExponent n d + 1 ≤ maxExponent
    · rw [if_pos hexp]
      refine ⟨by decide +kernel, by omega, hexp, fun hsmall => absurd hsmall (lt_irrefl _)⟩
    · rw [if_neg hexp] at h
      cases h

/-! ## Near a double -/

section
variable {s : Bool} {m n d : Nat} {e : Int} (h : (finite s m e).IsCanonical) (hm : 0 < m) (hd : 0 < d)
  (hnear : |(n / d : ℚ) - dyadic m e| < 2 ^ (e - 2))

theorem zpow_quarters (e k : Int) : (2 : ℚ) ^ (e + k) = 2 ^ (k + 2) * 2 ^ (e - 2) := by
  rw [← zpow_add₀ two_ne_zero]
  congr 1
  omega

theorem dyadic_quarters (m : Nat) (e : Int) : dyadic m e = 4 * m * 2 ^ (e - 2) := by
  have hpow := zpow_quarters e 0
  rw [add_zero] at hpow
  rw [dyadic, hpow]
  norm_num
  ring

include hnear in
theorem near_scaled (f : Int) : |(n / d : ℚ) * 2 ^ (-f) - m * 2 ^ (e - f)| < 2 ^ (e - f - 2) := by
  have hpos : (0 : ℚ) < 2 ^ (-f) := by positivity
  have hexp : dyadic m e * 2 ^ (-f) = m * 2 ^ (e - f) := by
    rw [dyadic, mul_assoc, ← zpow_add₀ two_ne_zero, ← sub_eq_add_neg]
  calc |(n / d : ℚ) * 2 ^ (-f) - m * 2 ^ (e - f)| = |(n / d : ℚ) - dyadic m e| * 2 ^ (-f) := by
        rw [← hexp, ← sub_mul, abs_mul, abs_of_pos hpos]
    _ < 2 ^ (e - 2) * 2 ^ (-f) := mul_lt_mul_of_pos_right hnear hpos
    _ = 2 ^ (e - f - 2) := by rw [← zpow_add₀ two_ne_zero]; congr 1; omega

include hm hd hnear in
theorem near_pos : 0 < n := by
  have hdq : (0 : ℚ) < d := by exact_mod_cast hd
  have hpow : (0 : ℚ) < 2 ^ (e - 2) := by positivity
  have hm' : (1 : ℚ) ≤ m := by exact_mod_cast hm
  have hlow := (abs_lt.mp hnear).1
  rw [dyadic_quarters] at hlow
  have hquot : (0 : ℚ) < n / d := by nlinarith
  exact_mod_cast (div_pos_iff_of_pos_right hdq).mp hquot

include h hnear in
theorem near_lt : (n / d : ℚ) < 2 ^ (e + 53) := by
  have hpow : (0 : ℚ) < 2 ^ (e - 2) := by positivity
  have hm' : (m : ℚ) + 1 ≤ 2 ^ 53 := by exact_mod_cast h.1
  have hhigh := (abs_lt.mp hnear).2
  rw [dyadic_quarters] at hhigh
  rw [zpow_quarters]
  have hstep := mul_le_mul_of_nonneg_right hm' hpow.le
  norm_num at hstep ⊢
  linarith

include h hm hd hnear in
/-- A rational near a double is rounded at the exponent of the double or, below
a power of two, at the one before. -/
theorem near_exponent : roundingExponent n d = e ∨ m = twoTo 52 ∧ roundingExponent n d = e - 1 := by
  have hn := near_pos hm hd hnear
  have hpow : (0 : ℚ) < 2 ^ (e - 2) := by positivity
  have hlow := (abs_lt.mp hnear).1
  rw [dyadic_quarters] at hlow
  obtain ⟨hmag, hmag'⟩ := magnitude_bounds hn hd
  have hle : magnitude n d < e + 53 := (zpow_lt_zpow_iff_right₀ one_lt_two).mp (hmag.trans_lt (near_lt h hnear))
  have hmin := h.2.1
  by_cases hsame : roundingExponent n d = e
  · exact .inl hsame
  · have hexp : magnitude n d < e + 52 ∧ minExponent < e := by
      unfold roundingExponent at hsame
      omega
    have hfull : twoTo 52 ≤ m := by
      by_contra hlt
      have hleast := h.2.2.2 (not_le.mp hlt)
      omega
    have hbelow : (n / d : ℚ) < 2 ^ (e + 52) := hmag'.trans_le (zpow_le_zpow_right₀ one_le_two (by omega))
    have hm52 : m = twoTo 52 := by
      by_contra hne
      have hgt : (2 : ℚ) ^ 52 + 1 ≤ m := by exact_mod_cast (by omega : twoTo 52 + 1 ≤ m)
      have hstep := mul_le_mul_of_nonneg_right hgt hpow.le
      rw [zpow_quarters] at hbelow
      norm_num at hstep hbelow
      linarith
    have hmag'' : magnitude n d = e + 51 := by
      apply magnitude_eq hn hd
      · have hm' : (m : ℚ) = 2 ^ 52 := by rw [hm52]; norm_num [twoTo]
        rw [hm'] at hlow
        rw [zpow_quarters]
        norm_num at hlow ⊢
        linarith
      · rwa [add_assoc]
    right
    unfold roundingExponent
    omega

include h hm hd hnear in
/-- **What is near a double is rounded to it.** A quarter of the last place is
near enough, also below a power of two where the doubles lie closer together. -/
theorem nearest_of_near : nearest s n d = finite s m e := by
  have hsig {k : Nat} {f : Int} (hexp : roundingExponent n d = f) (hk : (m : ℚ) * 2 ^ (e - f) = k) (hf : e ≤ f + 1) :
      roundingSignificand n d = k := by
    apply halfEven_eq_of_near (Nat.mul_pos hd (twoTo_pos _))
    rw [scaled_eq, hexp]
    have hclose := near_scaled hnear f
    rw [hk] at hclose
    calc _ < (2 : ℚ) ^ (e - f - 2) := hclose
      _ ≤ 2 ^ (-1 : Int) := zpow_le_zpow_right₀ one_le_two (by omega)
      _ = 1 / 2 := by norm_num
  have hexps := near_exponent h hm hd hnear
  obtain ⟨hm53, -, hmax, -⟩ := h
  rw [nearest_eq (near_pos hm hd hnear)]
  rcases hexps with hexp | ⟨rfl, hexp⟩
  · rw [carried, hexp, hsig (k := m) hexp (by simp) (by omega), if_pos hm53, if_pos hmax]
  · have htwice : ((twoTo 52 : Nat) : ℚ) * 2 ^ (e - (e - 1)) = (twoTo 53 : Nat) := by
      rw [sub_sub_cancel]
      norm_num [twoTo]
    rw [carried, hexp, hsig hexp htwice (by omega), if_neg (lt_irrefl _), sub_add_cancel, if_pos hmax]

end

end BrowserPilot.Binary64
