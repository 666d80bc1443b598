import BrowserPilot.Proofs.Json.Numbers
import BrowserPilot.Proofs.Json.Quotes

/-!
# Values on one line

The only breaks in the text of a value are those of the layout: between quotes a
break is escaped, and no number has one.
-/

namespace BrowserPilot

namespace Json

structure Style.IsOneLine (s : Style) : Prop where
  indent : s.indent = none
  separator : '\n' ∉ s.separator
  colon : '\n' ∉ s.colon

theorem not_mem_toDigits (n : Nat) : '\n' ∉ Nat.toDigits 10 n :=
  fun h => absurd (Text.isDigit_toDigits h) (by decide)

theorem not_mem_exponentText (f : NumberStyle) (e : Int) : '\n' ∉ (f.exponentText e).toList := by
  unfold NumberStyle.exponentText
  split <;> simp [NumberStyle.zeros, not_mem_toDigits]

theorem not_mem_layout (f : NumberStyle) (d : Decimal) : '\n' ∉ (f.layout d).toList := by
  have htext : '\n' ∉ (toString d.digits).toList := by
    rw [Text.toList_toString]
    exact not_mem_toDigits _
  have htake : ∀ n, '\n' ∉ (toString d.digits).toList.take n := fun n h => htext (List.mem_of_mem_take h)
  have hdrop : ∀ n, '\n' ∉ (toString d.digits).toList.drop n := fun n h => htext (List.mem_of_mem_drop h)
  unfold NumberStyle.layout
  generalize toString d.digits = text at htext htake hdrop ⊢
  simp only
  by_cases hzero : d.digits = 0
  · rw [if_pos hzero]
    split <;> decide
  rw [if_neg hzero]
  split
  · split
    · split <;> simp [NumberStyle.zeros, htext]
    · split
      · simp [htake, hdrop]
      · simp [NumberStyle.zeros, htext]
  · split
    · simp
    · rename_i heq
      rw [heq] at htext
      simpa [not_mem_exponentText] using htext
    · rename_i heq
      rw [heq] at htext
      simpa [not_mem_exponentText] using htext

theorem not_mem_numberText (s : Style) (x : Binary64) : '\n' ∉ numberText s x := by
  cases x with
  | nan =>
    simp only [numberText]
    split <;> decide
  | infinite negative =>
    simp only [numberText]
    split
    · split <;> decide
    · decide
  | finite negative m e =>
    have hlayout := not_mem_layout s.numbers (Decimal.trim 20 (Decimal.shortest m e))
    cases negative <;> simpa [numberText, Binary64.text] using hlayout

theorem not_mem_hexDigits {c : Char} (hc : ∀ n < 16, Text.hexDigit n ≠ c) (width n : Nat) : c ∉ Text.hexDigits width n := by
  induction width generalizing n with
  | zero => exact List.not_mem_nil
  | succ width ih =>
    rw [Text.hexDigits, List.mem_append, List.mem_singleton, not_or]
    exact ⟨ih _, (hc _ (by omega)).symm⟩

theorem not_mem_unitEscape {c : Char} (hc : (∀ n < 16, Text.hexDigit n ≠ c) ∧ c ≠ '\\' ∧ c ≠ 'u') (n : Nat) :
    c ∉ unitEscape n := by
  simp [unitEscape, hc.2, not_mem_hexDigits hc.1]

theorem Escapes.not_mem {c : Char} {cs : List Char} (h : Escapes c cs) : '\n' ∉ cs := by
  cases h with
  | plain _ _ hcode =>
    rw [List.mem_singleton]
    rintro rfl
    exact hcode (by decide)
  | marked hmark _ => simp [hmark.symm]
  | unit _ => exact not_mem_unitEscape (by decide) _
  | units _ => simp [not_mem_unitEscape (c := '\n') (by decide)]

theorem not_mem_quote (asciiOnly : Bool) (s : String) : '\n' ∉ quote asciiOnly s := by
  simp only [quote, List.mem_cons, List.mem_append, List.mem_flatMap, List.not_mem_nil, or_false, not_or, not_exists, not_and]
  exact ⟨by decide, fun c _ => (escapes_escapeChar asciiOnly c).not_mem, by decide⟩

section
variable {s : Style} (hs : s.IsOneLine)
include hs

theorem lineStart_oneLine (depth : Nat) : lineStart s depth = [] := by rw [lineStart, hs.indent]

mutual

/-- **No value breaks its line.** -/
theorem not_mem_write (depth : Nat) : (v : Json) → '\n' ∉ write s depth v
  | .null => by rw [write]; decide
  | .bool b => by cases b <;> rw [write] <;> decide
  | .int n => by
    rw [write, Text.toList_toString_int, List.mem_append, not_or]
    exact ⟨by split <;> simp, not_mem_toDigits n.natAbs⟩
  | .num x => by rw [write]; exact not_mem_numberText s x
  | .str t => by rw [write]; exact not_mem_quote _ t
  | .arr [] => by rw [write]; decide
  | .arr (v :: rest) => by
    simp [write, lineStart_oneLine hs, not_mem_write (depth + 1) v, not_mem_writeItems (depth + 1) rest]
  | .obj [] => by rw [write]; decide
  | .obj ((k, v) :: rest) => by
    simp [write, lineStart_oneLine hs, not_mem_quote, hs.colon, not_mem_write (depth + 1) v,
      not_mem_writeMembers (depth + 1) rest]

theorem not_mem_writeItems (depth : Nat) : (items : List Json) → '\n' ∉ writeItems s depth items
  | [] => by simp [writeItems]
  | v :: rest => by
    simp [writeItems, lineStart_oneLine hs, hs.separator, not_mem_write depth v, not_mem_writeItems depth rest]

theorem not_mem_writeMembers (depth : Nat) : (members : Members) → '\n' ∉ writeMembers s depth members
  | [] => by simp [writeMembers]
  | (k, v) :: rest => by
    simp [writeMembers, lineStart_oneLine hs, hs.separator, hs.colon, not_mem_quote, not_mem_write depth v,
      not_mem_writeMembers depth rest]

end

end

end Json

end BrowserPilot
