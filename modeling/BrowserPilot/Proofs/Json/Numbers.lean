import BrowserPilot.Json.Printer
import BrowserPilot.Json.Reader
import BrowserPilot.Proofs.Numeric.Shortest
import BrowserPilot.Proofs.Text.Decimal

/-!
# Numbers read back

A whole number is written in decimal digits, a double in one of five forms: with
zeros before the point or behind it, with the point between its digits, or with
an exponent. Every form has the value of the decimal that is laid out.
-/

namespace BrowserPilot

namespace Text

theorem toList_toString (n : Nat) : (toString n).toList = Nat.toDigits 10 n := by simp

theorem toList_toString_int (n : Int) :
    (toString n).toList = (if decide (n < 0) then ['-'] else []) ++ Nat.toDigits 10 n.natAbs := by
  cases n with
  | ofNat n => exact toList_toString n
  | negSucc n =>
    rw [if_pos (by simp), Int.natAbs_negSucc, ← toList_toString]
    exact String.toList_append (s := "-")

theorem readNat_append (as bs : List Char) : readNat (as ++ bs) = bs.foldl (fun n c => n * 10 + (digitValue? c).getD 0) (readNat as) :=
  List.foldl_append

theorem readNat_zeros (cs : List Char) (n : Nat) : readNat (cs ++ List.replicate n '0') = readNat cs * 10 ^ n := by
  induction n with
  | zero => simp
  | succ n ih =>
    rw [List.replicate_succ', ← List.append_assoc, readNat_append, ih, Nat.pow_succ, ← Nat.mul_assoc]
    rfl

theorem zeros_readNat (cs : List Char) (n : Nat) : readNat (List.replicate n '0' ++ cs) = readNat cs := by
  induction n with
  | zero => rfl
  | succ n ih => exact ih

theorem head?_toDigits {n : Nat} (hn : n ≠ 0) : (Nat.toDigits 10 n).head? ≠ some '0' := by
  induction n using Nat.strong_induction_on with
  | h n ih =>
    rw [Nat.toDigits_eq_if (by decide)]
    by_cases hlt : n < 10
    · rw [if_pos hlt]
      have hone : ∀ k < 10, k ≠ 0 → [k.digitChar].head? ≠ some '0' := by decide
      exact hone n hlt hn
    · rw [if_neg hlt, List.head?_append_of_ne_nil _ Nat.toDigits_ne_nil]
      exact ih (n / 10) (by omega) (by omega)

end Text

namespace Json

open Text NumberStyle

/-! ## Parts of numbers -/

theorem isAsciiDigit_of_isDigit {c : Char} (h : c.isDigit = true) : isAsciiDigit c = true := by
  simpa [isAsciiDigit, Char.isDigit, Char.le_def] using h

theorem isAsciiDigit_toDigits {n : Nat} : ∀ c ∈ Nat.toDigits 10 n, isAsciiDigit c = true :=
  fun _ h => isAsciiDigit_of_isDigit (isDigit_toDigits h)

theorem isAsciiDigit_zeros {n : Nat} : ∀ c ∈ List.replicate n '0', isAsciiDigit c = true :=
  fun c h => by rw [List.eq_of_mem_replicate h]; rfl

theorem isAsciiDigit_zero : ∀ c ∈ ['0'], isAsciiDigit c = true := isAsciiDigit_zeros (n := 1)

theorem isAsciiDigit_append {as bs : List Char} (ha : ∀ c ∈ as, isAsciiDigit c = true) (hb : ∀ c ∈ bs, isAsciiDigit c = true) :
    ∀ c ∈ as ++ bs, isAsciiDigit c = true :=
  fun c h => (List.mem_append.mp h).elim (ha c) (hb c)

def EndsDigits (rest : List Char) : Prop := ∀ c ∈ rest.head?, isAsciiDigit c = false

def EndsNumber (rest : List Char) : Prop := ∀ c ∈ rest.head?, isAsciiDigit c = false ∧ c ≠ '.' ∧ c ≠ 'e' ∧ c ≠ 'E'

theorem EndsNumber.endsDigits {rest : List Char} (h : EndsNumber rest) : EndsDigits rest := fun c hc => (h c hc).1

section
variable {digits rest : List Char} (hd : ∀ c ∈ digits, isAsciiDigit c = true) (h : EndsDigits rest)
include hd h

theorem takeWhile_digits : (digits ++ rest).takeWhile isAsciiDigit = digits := by
  rw [List.takeWhile_append_of_pos hd]
  cases rest with
  | nil => simp
  | cons c rest => rw [List.takeWhile_cons_of_neg (by simp [h c rfl]), List.append_nil]

theorem dropWhile_digits : (digits ++ rest).dropWhile isAsciiDigit = rest := by
  rw [List.dropWhile_append_of_pos hd]
  cases rest with
  | nil => rfl
  | cons c rest => exact List.dropWhile_cons_of_neg (by simp [h c rfl])

theorem readFraction_some (hne : digits ≠ []) : readFraction ('.' :: (digits ++ rest)) = (some digits, rest) := by
  simp only [readFraction, takeWhile_digits hd h, dropWhile_digits hd h]
  simp [hne]

theorem readExponent_digits (hne : digits ≠ []) (negative : Bool) :
    readExponent ('e' :: (if negative then '-' else '+') :: (digits ++ rest)) =
      (some (if negative then -(readNat digits : Int) else readNat digits), rest) := by
  cases negative <;> simp [readExponent, takeWhile_digits hd h, dropWhile_digits hd h, hne]

end

theorem readFraction_none {rest : List Char} (h : ∀ c ∈ rest.head?, c ≠ '.') : readFraction rest = (none, rest) := by
  cases rest with
  | nil => rfl
  | cons c rest =>
    unfold readFraction
    split
    · rename_i heq
      exact absurd (List.cons.inj heq).1 (h c rfl)
    · rfl

theorem readExponent_none {rest : List Char} (h : ∀ c ∈ rest.head?, c ≠ 'e' ∧ c ≠ 'E') : readExponent rest = (none, rest) := by
  cases rest with
  | nil => rfl
  | cons c rest => simp [readExponent, (h c rfl).1, (h c rfl).2]

theorem readExponent_text (f : NumberStyle) (e : Int) {rest : List Char} (h : EndsDigits rest) :
    readExponent ((f.exponentText e).toList ++ rest) = (some e, rest) := by
  let digits := List.replicate (f.exponentDigits - (toString e.natAbs).length) '0' ++ Nat.toDigits 10 e.natAbs
  have hdigits : ∀ c ∈ digits, isAsciiDigit c = true := isAsciiDigit_append isAsciiDigit_zeros isAsciiDigit_toDigits
  have hne : digits ≠ [] := List.append_ne_nil_of_right_ne_nil _ Nat.toDigits_ne_nil
  have hnat : readNat digits = e.natAbs := by rw [zeros_readNat, readNat_toDigits]
  have htext : (f.exponentText e).toList ++ rest = 'e' :: (if decide (e < 0) then '-' else '+') :: (digits ++ rest) := by
    by_cases he : e < 0 <;> simp [exponentText, zeros, digits, he]
  rw [htext, readExponent_digits hdigits h hne, hnat]
  by_cases he : e < 0
  · simp only [he, decide_true, if_true]
    rw [Int.ofNat_natAbs_of_nonpos he.le, Int.neg_neg]
  · simp only [he, decide_false, Bool.false_eq_true, if_false]
    rw [Int.natAbs_of_nonneg (not_lt.mp he)]

/-! ## Magnitudes -/

section
variable {negative : Bool} {whole tail rest rest' : List Char} {fraction : Option (List Char)} {exponent : Option Int}
  (hd : ∀ c ∈ whole, isAsciiDigit c = true) (hne : whole ≠ []) (hzero : whole.head? = some '0' → whole = ['0'])
  (htail : EndsDigits tail)
include hd hne hzero htail

theorem readMagnitude_whole (hf : readFraction tail = (none, rest)) (he : readExponent rest = (none, rest')) :
    readMagnitude negative (whole ++ tail) =
      some (.int (if negative then -(readNat whole : Int) else readNat whole), rest') := by
  have hwhole : (if whole.head? = some '0' then ['0'] else whole) = whole := ite_eq_right_iff.mpr fun h => (hzero h).symm
  unfold readMagnitude
  simp only [takeWhile_digits hd htail, hwhole, List.drop_left, hf, he]
  simp [hne]

theorem readMagnitude_part (hf : readFraction tail = (fraction, rest)) (he : readExponent rest = (exponent, rest'))
    (hpart : fraction ≠ none ∨ exponent ≠ none) : readMagnitude negative (whole ++ tail) =
      some (.num (.ofDecimal negative (readNat (whole ++ fraction.getD [])) (exponent.getD 0 - (fraction.getD []).length)),
        rest') := by
  have hwhole : (if whole.head? = some '0' then ['0'] else whole) = whole := ite_eq_right_iff.mpr fun h => (hzero h).symm
  unfold readMagnitude
  simp only [takeWhile_digits hd htail, hwhole, List.drop_left, hf, he]
  cases fraction with
  | some places => simp [hne]
  | none =>
    cases exponent with
    | some e => simp [hne]
    | none => simp at hpart

end

theorem readMagnitude_head {negative : Bool} {cs : List Char} {r : Json × List Char}
    (h : readMagnitude negative cs = some r) : ∃ c rest, cs = c :: rest ∧ isAsciiDigit c = true := by
  cases cs with
  | nil => cases h
  | cons c rest =>
    refine ⟨c, rest, rfl, ?_⟩
    by_contra hc
    simp [readMagnitude, List.takeWhile_cons_of_neg hc] at h

theorem readMagnitude_toDigits (negative : Bool) (n : Nat) {rest : List Char} (h : EndsNumber rest) :
    readMagnitude negative (Nat.toDigits 10 n ++ rest) = some (.int (if negative then -(n : Int) else n), rest) := by
  have hzero : (Nat.toDigits 10 n).head? = some '0' → Nat.toDigits 10 n = ['0'] := by
    intro hhead
    have hn : n = 0 := by
      by_contra hne
      exact head?_toDigits hne hhead
    rw [hn]
    rfl
  rw [readMagnitude_whole isAsciiDigit_toDigits Nat.toDigits_ne_nil hzero h.endsDigits
    (readFraction_none fun c hc => (h c hc).2.1) (readExponent_none fun c hc => (h c hc).2.2), readNat_toDigits]

def ReadsAs (negative : Bool) (cs : List Char) (d : Decimal) (rest : List Char) : Prop :=
  ∃ d' : Decimal, d'.value = d.value ∧
    readMagnitude negative (cs ++ rest) = some (.num (.ofDecimal negative d'.digits d'.exponent), rest)

section
variable (negative : Bool) {d : Decimal} {rest : List Char}

/-- Digits, some of them behind a point. -/
theorem readsAs_pointed {whole fraction : List Char} (hw : ∀ c ∈ whole, isAsciiDigit c = true) (hne : whole ≠ [])
    (hzero : whole.head? = some '0' → whole = ['0']) (hf : ∀ c ∈ fraction, isAsciiDigit c = true) (hne' : fraction ≠ [])
    (hvalue : (readNat (whole ++ fraction) : ℚ) * 10 ^ (-(fraction.length : Int)) = d.value) (h : EndsNumber rest) :
    ReadsAs negative (whole ++ '.' :: fraction) d rest := by
  refine ⟨⟨readNat (whole ++ fraction), -fraction.length⟩, hvalue, ?_⟩
  rw [List.append_assoc, List.cons_append]
  rw [readMagnitude_part hw hne hzero (by rintro c ⟨⟩; rfl) (readFraction_some hf h.endsDigits hne')
    (readExponent_none fun c hc => (h c hc).2.2) (.inl nofun)]
  simp

/-- Digits with an exponent, all but the first behind a point. -/
theorem readsAs_scaled (f : NumberStyle) (e : Int) {c : Char} {cs : List Char} (hd : ∀ x ∈ c :: cs, isAsciiDigit x = true)
    (hvalue : (readNat (c :: cs) : ℚ) * 10 ^ (e - cs.length) = d.value) (h : EndsNumber rest) :
    ReadsAs negative (c :: ((if cs = [] then [] else '.' :: cs) ++ (f.exponentText e).toList)) d rest := by
  have hc : ∀ x ∈ [c], isAsciiDigit x = true := fun x hx => hd x (by simp_all)
  have hcs : ∀ x ∈ cs, isAsciiDigit x = true := fun x hx => hd x (by simp [hx])
  have hone : [c].head? = some '0' → [c] = ['0'] := fun h => by simpa using h
  have hmark : ∀ x ∈ ((f.exponentText e).toList ++ rest).head?, x = 'e' := by
    intro x hx
    by_cases he : e < 0 <;> simpa [exponentText, he, eq_comm] using hx
  have hends : EndsDigits ((f.exponentText e).toList ++ rest) := fun x hx => by rw [hmark x hx]; rfl
  refine ⟨⟨readNat (c :: cs), e - cs.length⟩, hvalue, ?_⟩
  by_cases hnil : cs = []
  · rw [if_pos hnil, List.nil_append, List.cons_append, ← List.singleton_append]
    rw [readMagnitude_part hc (by simp) hone hends (readFraction_none fun x hx => by rw [hmark x hx]; decide)
      (readExponent_text f e h.endsDigits) (.inr nofun)]
    simp [hnil]
  · have hparts : c :: ((if cs = [] then [] else '.' :: cs) ++ (f.exponentText e).toList) ++ rest =
        [c] ++ '.' :: (cs ++ ((f.exponentText e).toList ++ rest)) := by simp [hnil]
    rw [hparts]
    rw [readMagnitude_part hc (by simp) hone (by rintro x ⟨⟩; rfl) (readFraction_some hcs hends hnil)
      (readExponent_text f e h.endsDigits) (.inl nofun)]
    simp

variable (h : EndsNumber rest)
include h

theorem readsAs_whole (hd : d.digits ≠ 0) {k : Nat} (hk : d.exponent = k) :
    ReadsAs negative (Nat.toDigits 10 d.digits ++ List.replicate k '0' ++ '.' :: List.replicate 1 '0') d rest := by
  apply readsAs_pointed negative (isAsciiDigit_append isAsciiDigit_toDigits isAsciiDigit_zeros) (by simp [Nat.toDigits_ne_nil])
    _ isAsciiDigit_zeros (by decide) _ h
  · intro hhead
    rw [List.head?_append_of_ne_nil _ Nat.toDigits_ne_nil] at hhead
    exact absurd hhead (head?_toDigits hd)
  · rw [readNat_zeros, readNat_zeros, readNat_toDigits, Decimal.value, hk]
    simp

theorem readsAs_inner (hd : d.digits ≠ 0) {k : Nat} (hk : 0 < k) (hlt : k < (Nat.toDigits 10 d.digits).length)
    (hexp : d.exponent = k - (Nat.toDigits 10 d.digits).length) :
    ReadsAs negative ((Nat.toDigits 10 d.digits).take k ++ '.' :: (Nat.toDigits 10 d.digits).drop k) d rest := by
  apply readsAs_pointed negative (fun c hc => isAsciiDigit_toDigits c (List.mem_of_mem_take hc))
    (by simp [Nat.toDigits_ne_nil, hk.ne']) _ (fun c hc => isAsciiDigit_toDigits c (List.mem_of_mem_drop hc)) (by simp [hlt]) _ h
  · intro hhead
    rw [List.head?_take, if_neg hk.ne'] at hhead
    exact absurd hhead (head?_toDigits hd)
  · have hplaces : -(((Nat.toDigits 10 d.digits).drop k).length : Int) = d.exponent := by
      rw [List.length_drop]
      omega
    rw [List.take_append_drop, readNat_toDigits, hplaces]
    rfl

theorem readsAs_small {k : Nat} (hexp : d.exponent = -(k + (Nat.toDigits 10 d.digits).length)) :
    ReadsAs negative (['0'] ++ '.' :: (List.replicate k '0' ++ Nat.toDigits 10 d.digits)) d rest := by
  apply readsAs_pointed negative isAsciiDigit_zero (List.cons_ne_nil _ _) (fun _ => rfl)
    (isAsciiDigit_append isAsciiDigit_zeros isAsciiDigit_toDigits) (by simp [Nat.toDigits_ne_nil]) _ h
  have hsame : readNat (['0'] ++ (List.replicate k '0' ++ Nat.toDigits 10 d.digits)) = readNat (Nat.toDigits 10 d.digits) :=
    zeros_readNat _ (k + 1)
  rw [hsame, readNat_toDigits, List.length_append, List.length_replicate, Nat.cast_add, ← hexp]
  rfl

/-- **Every layout has the value of its decimal.** -/
theorem readsAs_layout {f : NumberStyle} (hf : f.keepsFraction = true) (d : Decimal) :
    ReadsAs negative (f.layout d).toList d rest := by
  have htext := toList_toString d.digits
  have hlength : (toString d.digits).length = (Nat.toDigits 10 d.digits).length := by rw [← htext, String.length_toList]
  have hpos := List.length_pos_iff.mpr (Nat.toDigits_ne_nil (n := d.digits) (b := 10))
  unfold layout
  simp only [hf, if_true, hlength, htext]
  -- zero, a whole number, a point within the digits, a point in front of them, and last the scaled form
  by_cases hzero : d.digits = 0
  · rw [if_pos hzero]
    have hvalue : (readNat (['0'] ++ ['0']) : ℚ) * 10 ^ (-(['0'].length : Int)) = d.value := by
      simp [Decimal.value, hzero, readNat, digitValue?]
    exact readsAs_pointed negative isAsciiDigit_zero (List.cons_ne_nil _ _) (fun _ => rfl)
      isAsciiDigit_zero (List.cons_ne_nil _ _) hvalue h
  rw [if_neg hzero]
  by_cases hplain : f.low ≤ d.exponent + (Nat.toDigits 10 d.digits).length - 1 ∧
      d.exponent + (Nat.toDigits 10 d.digits).length - 1 ≤ f.high
  · rw [if_pos hplain]
    by_cases hwhole : 0 ≤ d.exponent
    · rw [if_pos hwhole]
      have hform := readsAs_whole negative h hzero (Int.toNat_of_nonneg hwhole).symm
      simpa [zeros] using hform
    rw [if_neg hwhole]
    by_cases hinner : 0 ≤ d.exponent + (Nat.toDigits 10 d.digits).length - 1
    · rw [if_pos hinner]
      have hform := readsAs_inner negative h hzero (k := (d.exponent + (Nat.toDigits 10 d.digits).length - 1).toNat + 1)
        (by omega) (by omega) (by omega)
      simpa using hform
    · rw [if_neg hinner]
      have hform := readsAs_small negative h (d := d) (k := (-(d.exponent + (Nat.toDigits 10 d.digits).length - 1)).toNat - 1)
        (by omega)
      simpa [zeros] using hform
  · rw [if_neg hplain]
    cases hdigits : Nat.toDigits 10 d.digits with
    | nil => exact absurd hdigits Nat.toDigits_ne_nil
    | cons c cs =>
      have hvalue : (readNat (c :: cs) : ℚ) * 10 ^ (d.exponent + (c :: cs).length - 1 - cs.length) = d.value := by
        have hexp : d.exponent + (c :: cs).length - 1 - cs.length = d.exponent := by
          rw [List.length_cons]
          omega
        rw [← hdigits, readNat_toDigits, hdigits, hexp]
        rfl
      have hform := readsAs_scaled negative f (d.exponent + (c :: cs).length - 1) (hdigits ▸ isAsciiDigit_toDigits) hvalue h
      cases cs with
      | nil => simpa using hform
      | cons c' cs => simpa using hform

end

/-! ## Numbers -/

theorem readScalar_digit (fuel : Nat) {c : Char} (hc : isAsciiDigit c = true) (rest : List Char) :
    readScalar fuel (c :: rest) = readMagnitude false (c :: rest) := by
  unfold readScalar
  split <;> simp_all [isAsciiDigit]

theorem readScalar_minus (fuel : Nat) {c : Char} (hc : isAsciiDigit c = true) (rest : List Char) :
    readScalar fuel ('-' :: c :: rest) = readMagnitude true (c :: rest) := by
  unfold readScalar
  split <;> simp_all [isAsciiDigit]

theorem readScalar_number (fuel : Nat) {negative : Bool} {cs : List Char} {r : Json × List Char}
    (h : readMagnitude negative cs = some r) : readScalar fuel ((if negative then ['-'] else []) ++ cs) = some r := by
  obtain ⟨c, rest, rfl, hc⟩ := readMagnitude_head h
  cases negative with
  | false => exact (readScalar_digit fuel hc rest).trans h
  | true => exact (readScalar_minus fuel hc rest).trans h

theorem readScalar_int (fuel : Nat) (n : Int) {rest : List Char} (h : EndsNumber rest) :
    readScalar fuel ((toString n).toList ++ rest) = some (.int n, rest) := by
  have hread := readScalar_number fuel (readMagnitude_toDigits (decide (n < 0)) n.natAbs h)
  rw [toList_toString_int, List.append_assoc, hread]
  by_cases hn : n < 0
  · simp [hn, abs_of_neg hn]
  · simp [hn, abs_of_nonneg (not_lt.mp hn)]

/-- **A double is read back from its text.** -/
theorem readScalar_num (fuel : Nat) {f : NumberStyle} (hf : f.keepsFraction = true) {x : Binary64} (hx : x.IsCanonical)
    {rest : List Char} (h : EndsNumber rest) : readScalar fuel ((x.text f).toList ++ rest) = some (.num x, rest) := by
  cases x with
  | nan => cases hx
  | infinite s => cases hx
  | finite s m e =>
    obtain ⟨d, hd, hread⟩ := readsAs_layout s h hf (Decimal.trim 20 (Decimal.shortest m e))
    have htext : ((Binary64.finite s m e).text f).toList ++ rest =
        (if s then ['-'] else []) ++ ((f.layout (Decimal.trim 20 (Decimal.shortest m e))).toList ++ rest) := by
      cases s <;> simp [Binary64.text]
    rw [Decimal.ofDecimal_written hx 20 hd] at hread
    rw [htext]
    exact readScalar_number fuel hread

end Json

end BrowserPilot
