import BrowserPilot.Retry
import BrowserPilot.Proofs.Numeric.Power

/-!
# How far delays reach

The cap of a strategy is applied to a delay that has been computed, and what
is computed without a bound may be beyond the largest double: the number of the
attempt, and the power of the factor before anything is multiplied by it. Up
to that attempt a strategy has a delay, within the cap and never less than an
earlier one.
-/

namespace BrowserPilot.RetryStrategy

open Binary64

/-! ## Capped delays -/

/-- Delays by the number of earlier attempts: which there are, and how they are bounded
and ordered. -/
structure Schedule (maxDelay : Binary64) (reach : Nat → Prop) (delay : Nat → Except Fault Binary64) : Prop where
  within : ∀ n, reach n → ∃ d, delay n = .ok d
  beyond : ∀ n, ¬ reach n → delay n = .error beyondRange ∨ delay n = .error attemptTooLarge
  bounds : ∀ {n d}, delay n = .ok d → d.IsNonneg ∧ d.le maxDelay = true
  mono : ∀ {m n d d'}, m ≤ n → delay m = .ok d → delay n = .ok d' → d.le d' = true

section
variable {maxDelay : Binary64} {reach : Nat → Prop} {delay : Nat → Except Fault Binary64}

theorem Schedule.reach_of_ok (h : Schedule maxDelay reach delay) {n : Nat} {d : Binary64} (hd : delay n = .ok d) :
    reach n := by
  by_contra hout
  rcases h.beyond n hout with herr | herr
  · rw [herr] at hd; cases hd
  · rw [herr] at hd; cases hd

/-- Delays that are capped one by one: the cap keeps their order. -/
theorem Schedule.of_capped (hmax : maxDelay.IsNonneg) (raw : Nat → Binary64)
    (hraw : ∀ n, reach n → delay n = .ok ((raw n).least maxDelay) ∧ (raw n).IsNonneg)
    (hmono : ∀ m n, m ≤ n → reach m → reach n → (raw m).le (raw n) = true)
    (hout : ∀ n, ¬ reach n → delay n = .error beyondRange ∨ delay n = .error attemptTooLarge) :
    Schedule maxDelay reach delay := by
  have hinv : ∀ {n d}, delay n = .ok d → reach n ∧ d = (raw n).least maxDelay ∧ (raw n).IsNonneg := by
    intro n d hd
    by_cases hn : reach n
    · exact ⟨hn, Except.ok.inj (hd.symm.trans (hraw n hn).1), (hraw n hn).2⟩
    · rcases hout n hn with herr | herr
      · rw [herr] at hd; cases hd
      · rw [herr] at hd; cases hd
  have hself := le_self_of_le hmax
  constructor
  · intro n hn
    exact ⟨_, (hraw n hn).1⟩
  · exact hout
  · intro n d hd
    obtain ⟨-, rfl, hnonneg⟩ := hinv hd
    exact ⟨le_least hnonneg hmax, least_le_right (le_self_of_le hnonneg) hself⟩
  · intro m n d d' hmn hd hd'
    obtain ⟨hm, rfl, hnonneg⟩ := hinv hd
    obtain ⟨hn, rfl, -⟩ := hinv hd'
    exact least_mono (hmono m n hmn hm hn) (le_self_of_le hnonneg) hself

end

/-! ## The strategies -/

theorem isTooLarge_iff {n : Nat} : isTooLarge n = true ↔ rangeEnd ≤ n := by
  have hfin := (ofNat_rounds n).isFinite_iff
  rw [← not_lt, ← Nat.cast_lt (α := ℚ), ← hfin]
  simp [isTooLarge]

section
variable {base factor maxDelay : Binary64} (hbase : base.isFinite = true) (hbase' : base.IsNonneg)
  (hmax : maxDelay.IsNonneg)
include hmax

theorem zero_schedule : Schedule maxDelay (fun _ => True) fun _ => .ok (zero false) := by
  have hcap : (zero false).least maxDelay = zero false := by simp [least, hmax.not_lt]
  apply Schedule.of_capped hmax fun _ => zero false
  · intro n _
    exact ⟨by rw [hcap], rfl⟩
  · intro m n _ _ _
    rfl
  · intro n hn
    exact absurd trivial hn

include hbase hbase'

theorem growing_schedule (hfactor : factor.isFinite = true) (hfactor' : 1 ≤ factor.value) :
    Schedule maxDelay (fun n => n < rangeEnd ∧ factor.value ^ n < rangeEnd) (growing base factor maxDelay) := by
  have hb := (isNonneg_iff_value hbase).mp hbase'
  -- within reach the power is a double of its own
  have hpower : ∀ n, factor.value ^ n < rangeEnd → ∃ p, factor.pow? n = some p ∧ p.isFinite = true ∧
      0 ≤ p.value ∧ Rounds p (factor.value ^ n) := by
    intro n hn
    rcases pow?_cases hfactor hfactor' n with ⟨p, hpow, hfin, hround⟩ | ⟨-, hge⟩
    · exact ⟨p, hpow, hfin, (isNonneg_iff_value hfin).mp hround.isNonneg, hround⟩
    · exact absurd hn (not_lt.mpr hge)
  apply Schedule.of_capped hmax fun n => base.mul ((factor.pow? n).getD nan)
  · intro n hn
    obtain ⟨p, hpow, hfin, hp, -⟩ := hpower n hn.2
    simp only [hpow, Option.getD_some]
    refine ⟨?_, (mul_rounds hbase hfin hb hp).isNonneg⟩
    rw [growing, if_neg fun h => absurd hn.1 (not_lt.mpr (isTooLarge_iff.mp h)), hpow]
  · intro m n hmn hm hn
    obtain ⟨p, hpow, hfin, hp, hround⟩ := hpower m hm.2
    obtain ⟨p', hpow', hfin', hp', hround'⟩ := hpower n hn.2
    have hle : p.value ≤ p'.value :=
      (le_iff_value hfin hfin').mp (hround.mono hround' (pow_le_pow_right₀ hfactor' hmn))
    simp only [hpow, hpow', Option.getD_some]
    exact (mul_rounds hbase hfin hb hp).mono (mul_rounds hbase hfin' hb hp') (mul_le_mul_of_nonneg_left hle hb)
  · intro n hn
    unfold growing
    by_cases hlarge : isTooLarge n = true
    · rw [if_pos hlarge]
      exact .inr rfl
    · have hlt : n < rangeEnd := not_le.mp fun h => hlarge (isTooLarge_iff.mpr h)
      rcases pow?_cases hfactor hfactor' n with ⟨p, -, hfin, hround⟩ | ⟨hpow, -⟩
      · exact absurd ⟨hlt, hround.isFinite_iff.mp hfin⟩ hn
      · rw [if_neg hlarge, hpow]
        exact .inl rfl

theorem linear_schedule :
    Schedule maxDelay (· < rangeEnd) fun n =>
      if isTooLarge n then .error attemptTooLarge else .ok ((base.add (base.mul (.ofNat n))).least maxDelay) := by
  have hb := (isNonneg_iff_value hbase).mp hbase'
  have hnumber : ∀ n, n < rangeEnd → (ofNat n).isFinite = true := fun n hn =>
    (ofNat_rounds n).isFinite_iff.mpr (Nat.cast_lt.mpr hn)
  have hmul : ∀ n, n < rangeEnd → Rounds (base.mul (ofNat n)) (base.value * (ofNat n).value) := fun n hn =>
    mul_rounds hbase (hnumber n hn) hb ((isNonneg_iff_value (hnumber n hn)).mp (isNonneg_ofNat n))
  have hsum : ∀ m n, m ≤ n → m < rangeEnd → n < rangeEnd → (base.add (base.mul (ofNat m))).IsNonneg ∧
      (base.add (base.mul (ofNat m))).le (base.add (base.mul (ofNat n))) = true := by
    intro m n hmn hm hn
    have hle : (ofNat m).value ≤ (ofNat n).value :=
      (le_iff_value (hnumber m hm) (hnumber n hn)).mp ((ofNat_rounds m).mono (ofNat_rounds n) (Nat.cast_le.mpr hmn))
    apply add_mono hbase hb (hmul m hm) (hmul n hn)
    exact (hmul m hm).mono (hmul n hn) (mul_le_mul_of_nonneg_left hle hb)
  apply Schedule.of_capped hmax fun n => base.add (base.mul (ofNat n))
  · intro n hn
    exact ⟨if_neg fun h => absurd hn (not_lt.mpr (isTooLarge_iff.mp h)), (hsum n n le_rfl hn hn).1⟩
  · intro m n hmn hm hn
    exact (hsum m n hmn hm hn).2
  · intro n hn
    exact .inr (if_pos (isTooLarge_iff.mpr (not_lt.mp hn)))

end

/-! ## The last attempt -/

/-- The last attempt that has a delay, none where all of them have one. -/
def lastAttempt (name : Name) (fault : Option Fault) : Option Nat :=
  match name with
  | .immediate => none
  | .exponential => some 1024
  | .linear => some rangeEnd
  | .adaptive =>
    match fault with
    | some (.step (.waitTimeout ..)) | some (.step (.elementNotFound ..)) => some 1751
    | some (.step (.scriptFailed ..)) => some rangeEnd
    | _ => some 1024

def HasDelay (name : Name) (fault : Option Fault) (attempt : Nat) : Prop :=
  ∀ last, lastAttempt name fault = some last → attempt ≤ last

theorem hasDelay_some {name : Name} {fault : Option Fault} {last : Nat} (h : lastAttempt name fault = some last)
    (attempt : Nat) : HasDelay name fault attempt ↔ attempt ≤ last := by
  simp [HasDelay, h]

theorem reach_iff {a b : Nat} (hb : 0 < b) (hab : b ≤ a) {last : Nat} (hlast : last < rangeEnd)
    (hin : a ^ last < rangeEnd * b ^ last) (hout : rangeEnd * b ^ (last + 1) ≤ a ^ (last + 1)) (n : Nat) :
    n < rangeEnd ∧ (a / b : ℚ) ^ n < rangeEnd ↔ n + 1 ≤ last + 1 := by
  have hbq : (0 : ℚ) < b := Nat.cast_pos.mpr hb
  have hone : (1 : ℚ) ≤ a / b := (one_le_div hbq).mpr (Nat.cast_le.mpr hab)
  have hpower : ∀ k, (a / b : ℚ) ^ k < rangeEnd ↔ a ^ k < rangeEnd * b ^ k := by
    intro k
    rw [div_pow, div_lt_iff₀ (by positivity)]
    exact_mod_cast Iff.rfl
  constructor
  · intro h
    by_contra hgt
    have hle : (a / b : ℚ) ^ (last + 1) ≤ (a / b : ℚ) ^ n := pow_le_pow_right₀ hone (by omega)
    exact absurd ((hpower (last + 1)).mp (hle.trans_lt h.2)) (not_lt.mpr hout)
  · intro h
    have hle : (a / b : ℚ) ^ n ≤ (a / b : ℚ) ^ last := pow_le_pow_right₀ hone (by omega)
    exact ⟨by omega, hle.trans_lt ((hpower last).mpr hin)⟩

/-- The end of the range among the powers of two and of three halves. -/
theorem rangeEnd_among_powers : 2 ^ 11 < rangeEnd ∧
    (2 ^ 1023 < rangeEnd * 1 ^ 1023 ∧ rangeEnd * 1 ^ (1023 + 1) ≤ 2 ^ (1023 + 1)) ∧
      3 ^ 1750 < rangeEnd * 2 ^ 1750 ∧ rangeEnd * 2 ^ (1750 + 1) ≤ 3 ^ (1750 + 1) := by
  decide +kernel

theorem ofNat_one : (ofNat 1).isFinite = true ∧ (ofNat 1).value = 1 := by
  have h : ofNat 1 = .finite false 4503599627370496 (-52) := by rfl
  rw [h]
  exact ⟨rfl, by norm_num [value, signed]⟩

theorem ofNat_two : (ofNat 2).isFinite = true ∧ (ofNat 2).value = (2 : Nat) / (1 : Nat) := by
  have h : ofNat 2 = .finite false 4503599627370496 (-51) := by rfl
  rw [h]
  exact ⟨rfl, by norm_num [value, signed]⟩

theorem ofRatio_threeHalves : (ofRatio 3 2).isFinite = true ∧ (ofRatio 3 2).value = (3 : Nat) / (2 : Nat) := by
  have h : ofRatio 3 2 = .finite false 6755399441055744 (-52) := by rfl
  rw [h]
  exact ⟨rfl, by norm_num [value, signed]⟩

theorem reach_one (n : Nat) : n < rangeEnd ∧ (ofNat 1).value ^ n < rangeEnd ↔ n + 1 ≤ rangeEnd := by
  have hone : 1 < rangeEnd := lt_trans (by decide) rangeEnd_among_powers.1
  rw [ofNat_one.2, one_pow]
  exact and_iff_left (by exact_mod_cast hone)

theorem reach_two (n : Nat) : n < rangeEnd ∧ (ofNat 2).value ^ n < rangeEnd ↔ n + 1 ≤ 1024 := by
  obtain ⟨hlast, ⟨hin, hout⟩, -⟩ := rangeEnd_among_powers
  rw [ofNat_two.2]
  exact reach_iff (by decide) (by decide) (hlast.trans' (by decide)) hin hout n

theorem reach_threeHalves (n : Nat) : n < rangeEnd ∧ (ofRatio 3 2).value ^ n < rangeEnd ↔ n + 1 ≤ 1751 := by
  obtain ⟨hlast, -, hin, hout⟩ := rangeEnd_among_powers
  rw [ofRatio_threeHalves.2]
  exact reach_iff (by decide) (by decide) (hlast.trans' (by decide)) hin hout n

theorem parameters_reach (fault : Option Fault) : ∃ base factor last, parameters fault = (base, factor) ∧
    base.isFinite = true ∧ base.IsNonneg ∧ factor.isFinite = true ∧ 1 ≤ factor.value ∧
      lastAttempt .adaptive fault = some last ∧ ∀ n, n < rangeEnd ∧ factor.value ^ n < rangeEnd ↔ n + 1 ≤ last := by
  have hone : 1 ≤ (ofNat 1).value := ofNat_one.2.ge
  have htwo : 1 ≤ (ofNat 2).value := by rw [ofNat_two.2]; norm_num
  have hthree : 1 ≤ (ofRatio 3 2).value := by rw [ofRatio_threeHalves.2]; norm_num
  have hbase : ∀ n < 6, (ofNat n).isFinite = true := by decide
  unfold parameters
  split
  · exact ⟨_, _, _, rfl, hbase 5 (by decide), isNonneg_ofNat 5, ofNat_two.1, htwo, rfl, reach_two⟩
  · exact ⟨_, _, _, rfl, hbase 5 (by decide), isNonneg_ofNat 5, ofNat_two.1, htwo, rfl, reach_two⟩
  · exact ⟨_, _, _, rfl, hbase 3 (by decide), isNonneg_ofNat 3, ofRatio_threeHalves.1, hthree, rfl, reach_threeHalves⟩
  · exact ⟨_, _, _, rfl, hbase 2 (by decide), isNonneg_ofNat 2, ofRatio_threeHalves.1, hthree, rfl, reach_threeHalves⟩
  · exact ⟨_, _, _, rfl, hbase 1 (by decide), isNonneg_ofNat 1, ofNat_one.1, hone, rfl, reach_one⟩
  · rename_i hwait hfound hscript
    refine ⟨_, _, 1024, rfl, hbase 1 (by decide), isNonneg_ofNat 1, ofNat_two.1, htwo, ?_, reach_two⟩
    simp only [lastAttempt]

/-! ## Delays within reach -/

theorem built {base maxDelay : Binary64} (hbase : base.isFinite = true) (hbase' : base.IsNonneg)
    (hmax : maxDelay.IsNonneg) (name : Name) : ∃ s, named? name.text base maxDelay = .ok s ∧
      ∀ fault, Schedule maxDelay (fun n => HasDelay name fault (n + 1)) fun n => s.delay (n + 1 : Nat) fault := by
  have hname : Name.ofText? name.text = some name := by cases name <;> rfl
  have hb : isBelow 0 base = false := hbase'.not_lt
  have hm : isBelow 0 maxDelay = false := hmax.not_lt
  have hone : isBelow 1 (ofNat 2) = false := by rfl
  have hnumber : ∀ n : Nat, (((n + 1 : Nat) : Int) - 1).toNat = n := by omega
  simp only [named?, hname]
  cases name with
  | immediate =>
    refine ⟨_, rfl, fun fault => ?_⟩
    have hall : ∀ n, HasDelay .immediate fault n := fun n last h => by cases h
    simpa only [delay, hall] using zero_schedule hmax
  | exponential =>
    refine ⟨.exponential base (ofNat 2) maxDelay, by simp [ofName?, exponential?, hb, hm, hone], fun fault => ?_⟩
    have htwo : 1 ≤ (ofNat 2).value := by rw [ofNat_two.2]; norm_num
    have h := growing_schedule hbase hbase' hmax ofNat_two.1 htwo
    have hlast : lastAttempt .exponential fault = some 1024 := rfl
    simp only [reach_two] at h
    simpa only [delay, hnumber, hasDelay_some hlast] using h
  | linear =>
    refine ⟨.linear base base maxDelay, by simp [ofName?, linear?, hb, hm], fun fault => ?_⟩
    have hlast : lastAttempt .linear fault = some rangeEnd := rfl
    simpa only [delay, hnumber, hasDelay_some hlast, Nat.add_one_le_iff] using linear_schedule hbase hbase' hmax
  | adaptive =>
    refine ⟨.adaptive maxDelay, by simp [ofName?, adaptive?, hm], fun fault => ?_⟩
    obtain ⟨base', factor, last, hpar, hfin, hnonneg, hfactor, hge, hlast, hreach⟩ := parameters_reach fault
    have h := growing_schedule hfin hnonneg hmax hfactor hge
    simp only [hreach] at h
    simpa only [delay, hnumber, hpar, hasDelay_some hlast] using h

/-- **Delays within reach.** A strategy built from a name, with a base and a
cap that are not negative, has a delay after an attempt exactly up to the last
one within reach, and it is between zero and the cap. Two attempts in a row
have delays in their order exactly when the second is within reach. Beyond it
a delay cannot be computed. -/
theorem delays_within_reach (name : Name) {base maxDelay : Binary64} (hbase : base.isFinite = true)
    (hbase' : base.IsNonneg) (hmax : maxDelay.IsNonneg) :
    ∃ s, named? name.text base maxDelay = .ok s ∧ ∀ (fault : Option Fault) (n : Nat), 1 ≤ n →
      ((∃ d, s.delay n fault = .ok d ∧ d.IsNonneg ∧ d.le maxDelay = true) ↔ HasDelay name fault n) ∧
      ((∃ d d', s.delay n fault = .ok d ∧ s.delay (n + 1 : Nat) fault = .ok d' ∧ d.le d' = true) ↔
        HasDelay name fault (n + 1)) ∧
      (¬ HasDelay name fault n →
        s.delay n fault = .error beyondRange ∨ s.delay n fault = .error attemptTooLarge) := by
  obtain ⟨s, hs, hschedule⟩ := built hbase hbase' hmax name
  refine ⟨s, hs, fun fault n hn => ?_⟩
  obtain ⟨k, rfl⟩ : ∃ k, n = k + 1 := ⟨n - 1, by omega⟩
  have h := hschedule fault
  refine ⟨⟨fun ⟨d, hd, _⟩ => h.reach_of_ok hd, fun hk => ?_⟩, ⟨fun ⟨_, d', _, hd', _⟩ => h.reach_of_ok hd', fun hk => ?_⟩,
    h.beyond k⟩
  · obtain ⟨d, hd⟩ := h.within k hk
    exact ⟨d, hd, h.bounds hd⟩
  · have hk' : HasDelay name fault (k + 1) := fun last hlast => Nat.le_of_succ_le (hk last hlast)
    obtain ⟨d, hd⟩ := h.within k hk'
    obtain ⟨d', hd'⟩ := h.within (k + 1) hk
    exact ⟨d, d', hd, hd', h.mono (Nat.le_succ k) hd hd'⟩

theorem delays_within_reach_usual : (ofNat 1).isFinite = true ∧ (ofNat 1).IsNonneg ∧ (ofNat 30).IsNonneg ∧
    ∃ s, named? "exponential" (ofNat 1) (ofNat 30) = .ok s ∧
      (∃ d, s.delay 1024 none = .ok d ∧ d.IsNonneg ∧ d.le (ofNat 30) = true) ∧
      ¬ ∃ d d', s.delay 1024 none = .ok d ∧ s.delay 1025 none = .ok d' ∧ d.le d' = true := by
  have hbase : (ofNat 1).isFinite = true := ofNat_one.1
  obtain ⟨s, hs, h⟩ := delays_within_reach .exponential hbase (isNonneg_ofNat 1) (isNonneg_ofNat 30)
  have hlast : lastAttempt .exponential none = some 1024 := rfl
  obtain ⟨hone, htwo, -⟩ := h none 1024 (by decide)
  refine ⟨hbase, isNonneg_ofNat 1, isNonneg_ofNat 30, s, hs, hone.mpr ((hasDelay_some hlast _).mpr le_rfl), ?_⟩
  exact fun hboth => absurd ((hasDelay_some hlast _).mp (htwo.mp hboth)) (by decide)

/-- The power alone is beyond the largest double, however low the cap. -/
theorem capped_delay_lost : named? "exponential" (ofNat 1) (ofNat 30) = .ok usual ∧
    usual.delay 1024 none = .ok (ofNat 30) ∧ usual.delay 1025 none = .error beyondRange := by
  decide +kernel

end BrowserPilot.RetryStrategy
