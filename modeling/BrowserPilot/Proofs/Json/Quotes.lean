import BrowserPilot.Json.Printer
import BrowserPilot.Json.Reader

/-!
# Text in quotes is read back

A character stands between quotes as it is, behind a backslash, or as one or two
units of four hexadecimal digits. Every form is read as the character, whichever
characters a layout escapes.
-/

namespace BrowserPilot

namespace Json

/-! ## Escapes -/

theorem hexValue?_hexDigit : ∀ n < 16, Text.hexValue? (Text.hexDigit n) = some n := by decide

theorem readUnit_hexDigits {n : Nat} (h : n < 0x10000) (rest : List Char) :
    readUnit (Text.hexDigits 4 n ++ rest) = some (n, rest) := by
  have hdigit (k : Nat) : Text.hexValue? (Text.hexDigit (k % 16)) = some (k % 16) := hexValue?_hexDigit _ (by omega)
  simp only [Text.hexDigits, List.nil_append, List.cons_append, readUnit, hdigit, Option.some.injEq, Prod.mk.injEq, and_true]
  omega

theorem readEscape_single {cs rest : List Char} {n : Nat} (h : readUnit cs = some (n, rest)) (hn : n < 0xD800 ∨ 0xE000 ≤ n) :
    readEscape ('u' :: cs) = some (Char.ofNat n, rest) := by
  unfold readEscape
  simp only [h]
  rw [if_pos hn]

theorem readEscape_pair {cs cs' rest : List Char} {high low : Nat} (h : readUnit cs = some (high, '\\' :: 'u' :: cs'))
    (h' : readUnit cs' = some (low, rest)) (hhigh : 0xD800 ≤ high ∧ high < 0xDC00) (hlow : 0xDC00 ≤ low ∧ low < 0xE000) :
    readEscape ('u' :: cs) = some (Char.ofNat (0x10000 + (high - 0xD800) * 0x400 + (low - 0xDC00)), rest) := by
  unfold readEscape
  simp only [h, h']
  rw [if_neg (by omega), if_neg (by omega), if_pos hlow]

theorem toNat_cases (c : Char) : c.toNat < 0xD800 ∨ 0xE000 ≤ c.toNat ∧ c.toNat < 0x110000 := by
  rcases c.valid with hlow | hhigh
  · exact .inl hlow
  · exact .inr hhigh

theorem readEscape_unit {c : Char} (h : c.toNat < 0x10000) (rest : List Char) :
    readEscape ('u' :: (Text.hexDigits 4 c.toNat ++ rest)) = some (c, rest) := by
  have hread := readEscape_single (readUnit_hexDigits h rest) ((toNat_cases c).imp_right And.left)
  rwa [Char.ofNat_toNat] at hread

theorem readEscape_units {c : Char} (h : 0x10000 ≤ c.toNat) (rest : List Char) :
    readEscape ('u' :: (Text.hexDigits 4 (0xD800 + (c.toNat - 0x10000) / 0x400) ++
      (unitEscape (0xDC00 + (c.toNat - 0x10000) % 0x400) ++ rest))) = some (c, rest) := by
  have hvalid := toNat_cases c
  obtain ⟨n, hn⟩ : ∃ n, n = c.toNat - 0x10000 := ⟨_, rfl⟩
  rw [← hn]
  have hhigh := readUnit_hexDigits (n := 0xD800 + n / 0x400) (by omega) (unitEscape (0xDC00 + n % 0x400) ++ rest)
  have hlow := readUnit_hexDigits (n := 0xDC00 + n % 0x400) (by omega) rest
  have hsum : 0x10000 + (0xD800 + n / 0x400 - 0xD800) * 0x400 + (0xDC00 + n % 0x400 - 0xDC00) = c.toNat := by omega
  rw [readEscape_pair hhigh hlow (by omega) (by omega), hsum, Char.ofNat_toNat]

inductive Escapes (c : Char) : List Char → Prop where
  | plain (hquote : c ≠ '"') (hslash : c ≠ '\\') (hcode : ¬c.toNat < 0x20) : Escapes c [c]
  | marked {mark : Char} (hmark : mark ≠ '\n') (h : ∀ rest, readEscape (mark :: rest) = some (c, rest)) : Escapes c ['\\', mark]
  | unit (h : c.toNat < 0x10000) : Escapes c (unitEscape c.toNat)
  | units (h : 0x10000 ≤ c.toNat) : Escapes c
      (unitEscape (0xD800 + (c.toNat - 0x10000) / 0x400) ++ unitEscape (0xDC00 + (c.toNat - 0x10000) % 0x400))

theorem escapes_escapeChar (asciiOnly : Bool) (c : Char) : Escapes c (escapeChar asciiOnly c) := by
  unfold escapeChar
  iterate 7
    split
    · next h =>
      subst h
      exact .marked (by decide) fun _ => rfl
  split
  · next h => exact .unit (by omega)
  split
  · split
    · next h => exact .unit h
    · next h => exact .units (Nat.not_lt.mp h)
  · next hquote hslash _ _ _ _ _ hcode _ => exact .plain hquote hslash hcode

theorem readChars_backslash {cs rest : List Char} {c : Char} (h : readEscape cs = some (c, rest)) (fuel : Nat) :
    readChars (fuel + 1) ('\\' :: cs) = (readChars fuel rest).map fun r => (c :: r.1, r.2) := by
  simp [readChars, h]

theorem Escapes.readChars {c : Char} {cs : List Char} (h : Escapes c cs) (fuel : Nat) (rest : List Char) :
    readChars (fuel + 1) (cs ++ rest) = (Json.readChars fuel rest).map fun r => (c :: r.1, r.2) := by
  cases h with
  | plain hquote hslash hcode => simp [Json.readChars, hquote, hslash, hcode]
  | marked _ h => exact readChars_backslash (h rest) fuel
  | unit h => exact readChars_backslash (readEscape_unit h rest) fuel
  | units h =>
    rw [List.append_assoc]
    exact readChars_backslash (readEscape_units h rest) fuel

theorem Escapes.length_pos {c : Char} {cs : List Char} (h : Escapes c cs) : 0 < cs.length := by
  cases h <;> simp [unitEscape]

/-! ## Text -/

theorem readChars_escaped (asciiOnly : Bool) (cs : List Char) {fuel : Nat} (hfuel : cs.length < fuel) (rest : List Char) :
    readChars fuel (cs.flatMap (escapeChar asciiOnly) ++ '"' :: rest) = some (cs, rest) := by
  induction cs generalizing fuel with
  | nil =>
    obtain ⟨fuel, rfl⟩ := Nat.exists_eq_add_of_lt hfuel
    simp [readChars]
  | cons c cs ih =>
    obtain ⟨fuel, rfl⟩ : ∃ n, fuel = n + 1 := ⟨fuel - 1, by omega⟩
    rw [List.flatMap_cons, List.append_assoc, (escapes_escapeChar asciiOnly c).readChars, ih (by simpa using hfuel)]
    rfl

theorem length_quote (asciiOnly : Bool) (s : String) : s.toList.length + 2 ≤ (quote asciiOnly s).length := by
  have hle : s.toList.length ≤ (s.toList.flatMap (escapeChar asciiOnly)).length := by
    induction s.toList with
    | nil => exact Nat.le_refl _
    | cons c cs ih =>
      have hone := (escapes_escapeChar asciiOnly c).length_pos
      rw [List.flatMap_cons, List.length_append, List.length_cons]
      omega
  simp only [quote, List.length_cons, List.length_append, List.length_nil]
  omega

/-- **Text is read back from its quotes.** -/
theorem readText_quote (asciiOnly : Bool) (s : String) (fuel : Nat) (hfuel : (quote asciiOnly s).length ≤ fuel + 1)
    (rest : List Char) : ∃ cs, quote asciiOnly s ++ rest = '"' :: cs ∧ readText fuel cs = some (s, rest) := by
  have hlength := length_quote asciiOnly s
  refine ⟨s.toList.flatMap (escapeChar asciiOnly) ++ '"' :: rest, by simp [quote], ?_⟩
  rw [readText, readChars_escaped asciiOnly s.toList (by omega), Option.map_some, String.ofList_toList]

end Json

end BrowserPilot
