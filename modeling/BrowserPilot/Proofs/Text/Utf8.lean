import BrowserPilot.Text.Utf8

/-!
# Text from its own bytes

Decoding inverts encoding. A character comes back from the bytes it is written
in, whatever follows them; the numbers of the four forms are cut apart as the
first byte says, so there is one lemma for each.
-/

namespace BrowserPilot.Text.Utf8

theorem toNat_byte {n : Nat} (h : n < 0x100) : (UInt8.ofNat n).toNat = n := by
  rw [UInt8.toNat_ofNat']
  exact Nat.mod_eq_of_lt h

section
variable {c : Char} {b : UInt8} {bs rest seen : List UInt8} {code n low high : Nat} {ranges : List (Nat × Nat)}

theorem follow_cons (hlow : low ≤ n % 64 + 0x80) (hhigh : n % 64 + 0x80 ≤ high) :
    follow code seen ((low, high) :: ranges) (UInt8.ofNat (n % 64 + 0x80) :: bs) =
      follow (code * 64 + n % 64) (seen ++ [UInt8.ofNat (n % 64 + 0x80)]) ranges bs := by
  have hb : (UInt8.ofNat (n % 64 + 0x80)).toNat = n % 64 + 0x80 := toNat_byte (by omega)
  have hsix : (n % 64 + 0x80) % 64 = n % 64 := by omega
  rw [follow, hb, hsix, if_pos ⟨hlow, hhigh⟩]

theorem first_lead {more : Nat} {range : Nat × Nat} (hb : ¬ b.toNat < 0x80) (hlead : lead? b = some (code, range, more))
    (hfollow : follow code [b] (range :: List.replicate more (0x80, 0xBF)) bs = .ok (c.toNat, rest)) :
    first b bs = .ok (c, rest) := by
  simp [first, hb, hlead, hfollow, Except.map]

theorem first_one (h : c.toNat < 0x80) : first (UInt8.ofNat c.toNat) rest = .ok (c, rest) := by
  have hb : (UInt8.ofNat c.toNat).toNat = c.toNat := toNat_byte (by omega)
  rw [first, hb, if_pos h, Char.ofNat_toNat]

theorem first_two (h : 0x80 ≤ c.toNat) (h' : c.toNat < 0x800) :
    first (UInt8.ofNat (c.toNat / 64 % 32 + 0xC0)) (UInt8.ofNat (c.toNat % 64 + 0x80) :: rest) = .ok (c, rest) := by
  generalize hb : c.toNat / 64 % 32 + 0xC0 = n
  have hn : (UInt8.ofNat n).toNat = n := toNat_byte (by omega)
  have hlead : lead? (UInt8.ofNat n) = some (n - 0xC0, (0x80, 0xBF), 0) := by
    rw [lead?, hn, if_neg (by omega), if_pos (by omega)]
  have hcode : (n - 0xC0) * 64 + c.toNat % 64 = c.toNat := by omega
  apply first_lead (by omega) hlead
  rw [follow_cons (by omega) (by omega), List.replicate_zero, follow, hcode]

theorem first_three (h : 0x800 ≤ c.toNat) (h' : c.toNat < 0x10000) :
    first (UInt8.ofNat (c.toNat / 4096 % 16 + 0xE0))
      (UInt8.ofNat (c.toNat / 64 % 64 + 0x80) :: UInt8.ofNat (c.toNat % 64 + 0x80) :: rest) = .ok (c, rest) := by
  generalize hb : c.toNat / 4096 % 16 + 0xE0 = n
  have hn : (UInt8.ofNat n).toNat = n := toNat_byte (by omega)
  have hlead : lead? (UInt8.ofNat n) =
      some (n - 0xE0, (if n = 0xE0 then 0xA0 else 0x80, if n = 0xED then 0x9F else 0xBF), 1) := by
    rw [lead?, hn, if_neg (by omega), if_neg (by omega), if_pos (by omega)]
  -- no character has the number of a surrogate, which is what the range after `0xED` leaves out
  have hscalar : c.toNat < 0xD800 ∨ 0xDFFF < c.toNat ∧ c.toNat < 0x110000 := c.valid
  have hlow : (if n = 0xE0 then 0xA0 else 0x80) ≤ c.toNat / 64 % 64 + 0x80 := by split <;> omega
  have hhigh : c.toNat / 64 % 64 + 0x80 ≤ if n = 0xED then 0x9F else 0xBF := by split <;> omega
  have hcode : ((n - 0xE0) * 64 + c.toNat / 64 % 64) * 64 + c.toNat % 64 = c.toNat := by omega
  apply first_lead (by omega) hlead
  rw [follow_cons hlow hhigh, List.replicate_one, follow_cons (by omega) (by omega), follow, hcode]

theorem first_four (h : 0x10000 ≤ c.toNat) :
    first (UInt8.ofNat (c.toNat / 262144 % 8 + 0xF0))
      (UInt8.ofNat (c.toNat / 4096 % 64 + 0x80) :: UInt8.ofNat (c.toNat / 64 % 64 + 0x80) ::
        UInt8.ofNat (c.toNat % 64 + 0x80) :: rest) = .ok (c, rest) := by
  generalize hb : c.toNat / 262144 % 8 + 0xF0 = n
  have hscalar : c.toNat < 0xD800 ∨ 0xDFFF < c.toNat ∧ c.toNat < 0x110000 := c.valid
  have hn : (UInt8.ofNat n).toNat = n := toNat_byte (by omega)
  have hlead : lead? (UInt8.ofNat n) =
      some (n - 0xF0, (if n = 0xF0 then 0x90 else 0x80, if n = 0xF4 then 0x8F else 0xBF), 2) := by
    rw [lead?, hn, if_neg (by omega), if_neg (by omega), if_neg (by omega), if_pos (by omega)]
  have hlow : (if n = 0xF0 then 0x90 else 0x80) ≤ c.toNat / 4096 % 64 + 0x80 := by split <;> omega
  have hhigh : c.toNat / 4096 % 64 + 0x80 ≤ if n = 0xF4 then 0x8F else 0xBF := by split <;> omega
  have hcode : (((n - 0xF0) * 64 + c.toNat / 4096 % 64) * 64 + c.toNat / 64 % 64) * 64 + c.toNat % 64 = c.toNat := by
    omega
  apply first_lead (by omega) hlead
  rw [follow_cons hlow hhigh, List.replicate_succ, follow_cons (by omega) (by omega), List.replicate_one,
    follow_cons (by omega) (by omega), follow, hcode]

end

theorem first_encoded (c : Char) (rest : List UInt8) :
    ∃ b bs, String.utf8EncodeChar c = b :: bs ∧ first b (bs ++ rest) = .ok (c, rest) := by
  simp only [String.utf8EncodeChar, Char.toNat_val]
  split
  · exact ⟨_, _, rfl, first_one (by omega)⟩
  split
  · exact ⟨_, _, rfl, first_two (by omega) (by omega)⟩
  split
  · exact ⟨_, _, rfl, first_three (by omega) (by omega)⟩
  · exact ⟨_, _, rfl, first_four (by omega)⟩

/-- Every character takes a byte at least, so a step for each byte is enough. -/
theorem decodeFrom_encoded (cs : List Char) : ∀ fuel position, (cs.flatMap String.utf8EncodeChar).length ≤ fuel →
    decodeFrom fuel position (cs.flatMap String.utf8EncodeChar) = .ok cs := by
  induction cs with
  | nil =>
    intro fuel position _
    rw [List.flatMap_nil, decodeFrom]
  | cons c cs ih =>
    intro fuel position hfuel
    obtain ⟨b, bs, hbytes, hfirst⟩ := first_encoded c (cs.flatMap String.utf8EncodeChar)
    rw [List.flatMap_cons, hbytes, List.cons_append] at hfuel ⊢
    cases fuel with
    | zero => simp at hfuel
    | succ fuel =>
      have hrest : (cs.flatMap String.utf8EncodeChar).length ≤ fuel := by
        simp only [List.length_cons, List.length_append] at hfuel
        omega
      rw [decodeFrom, hfirst]
      simp only [ih fuel _ hrest]
      rfl

theorem decode_toUTF8 (text : String) : decode text.toUTF8.data.toList = .ok text.toList := by
  have hbytes : text.toUTF8.data.toList = text.toList.flatMap String.utf8EncodeChar := by
    rw [String.toUTF8, ← String.utf8Encode_toList, List.utf8Encode, List.toList_data_toByteArray]
  rw [hbytes]
  exact decodeFrom_encoded text.toList _ 0 (Nat.le_refl _)

end BrowserPilot.Text.Utf8
