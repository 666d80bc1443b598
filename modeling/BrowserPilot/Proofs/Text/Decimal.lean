import BrowserPilot.Text.Blank
import BrowserPilot.Text.Digit
import BrowserPilot.Text.Lines
import Mathlib.Algebra.Group.Nat.Defs

/-!
# Numbers as they are written

A number that is written in decimal digits is read back as the same number, so
that different numbers are written differently.
-/

namespace BrowserPilot.Text

theorem digitValue?_ascii {c : Char} (h : c.isDigit = true) : digitValue? c = some (c.toNat - 48) := by
  have hc : 48 ≤ c.toNat ∧ c.toNat ≤ 57 := by simpa [Char.isDigit, ← Char.toNat_val, UInt32.le_iff_toNat_le] using h
  rw [digitValue?, if_pos hc]

theorem readNat_eq_ofDigitChars : ∀ (cs : List Char), (∀ c ∈ cs, c.isDigit = true) → ∀ n,
    cs.foldl (fun n c => n * 10 + (digitValue? c).getD 0) n = Nat.ofDigitChars 10 cs n
  | [], _, n => by simp
  | c :: cs, h, n => by
    rw [List.foldl_cons, Nat.ofDigitChars_cons, digitValue?_ascii (h c (by simp)), Nat.mul_comm]
    exact readNat_eq_ofDigitChars cs (fun c hc => h c (by simp [hc])) _

theorem isDigit_toDigits {n : Nat} {c : Char} (h : c ∈ Nat.toDigits 10 n) : c.isDigit = true :=
  Nat.isDigit_of_mem_toDigits (by decide) (by decide) h

theorem not_isBlank_of_isDigit {c : Char} (h : c.isDigit = true) : isBlank c = false := by
  have hc : 48 ≤ c.toNat ∧ c.toNat ≤ 57 := by simpa [Char.isDigit, ← Char.toNat_val, UInt32.le_iff_toNat_le] using h
  simp only [isBlank, Bool.or_eq_false_iff, Bool.and_eq_false_iff, decide_eq_false_iff_not, beq_eq_false_iff_ne]
  omega

theorem not_isBreak_of_isDigit {c : Char} (h : c.isDigit = true) : isBreak c = false := by
  have hc : 48 ≤ c.toNat ∧ c.toNat ≤ 57 := by simpa [Char.isDigit, ← Char.toNat_val, UInt32.le_iff_toNat_le] using h
  simp only [isBreak, Bool.or_eq_false_iff, Bool.and_eq_false_iff, decide_eq_false_iff_not, beq_eq_false_iff_ne]
  omega

theorem readNat_toDigits (n : Nat) : readNat (Nat.toDigits 10 n) = n := by
  rw [readNat, readNat_eq_ofDigitChars _ fun c => isDigit_toDigits, Nat.ofDigitChars_ten_toDigits]

theorem digitValue?_lt {c : Char} : (digitValue? c).getD 0 < 10 := by
  unfold digitValue?
  dsimp only
  split
  · simp only [Option.getD_some]
    omega
  · split
    · simp
    · cases h : digitZeros.find? fun z => decide (z ≤ c.toNat ∧ c.toNat < z + 10) with
      | none => simp
      | some z =>
        have := List.find?_some h
        simp only [decide_eq_true_eq] at this
        simp only [Option.map_some, Option.getD_some]
        omega

theorem foldl_digits_lt (cs : List Char) (n : Nat) :
    cs.foldl (fun n c => n * 10 + (digitValue? c).getD 0) n < (n + 1) * 10 ^ cs.length := by
  induction cs generalizing n with
  | nil => simp
  | cons c cs ih =>
    have hc : (digitValue? c).getD 0 < 10 := digitValue?_lt
    calc _ < (n * 10 + (digitValue? c).getD 0 + 1) * 10 ^ cs.length := ih _
      _ ≤ ((n + 1) * 10) * 10 ^ cs.length := Nat.mul_le_mul_right _ (by omega)
      _ = (n + 1) * 10 ^ (c :: cs).length := by rw [List.length_cons, Nat.pow_succ', Nat.mul_assoc]

theorem readNat_lt (cs : List Char) : readNat cs < 10 ^ cs.length := by
  simpa [readNat] using foldl_digits_lt cs 0

theorem toString_nat_injective {m n : Nat} (h : toString m = toString n) : m = n := by
  have hl : Nat.toDigits 10 m = Nat.toDigits 10 n := by
    simpa using congrArg String.toList h
  rw [← readNat_toDigits m, hl, readNat_toDigits]

end BrowserPilot.Text
