import BrowserPilot.Proofs.Text.Place
import BrowserPilot.Text.Replace
import Mathlib.Data.List.Find

/-!
# Replacing several texts at once

Replacements that are made one after the other also act on what the earlier
ones have put in. In a text where no two places overlap they do what a single
pass does with the values that the later replacements leave.
-/

namespace BrowserPilot.Text

/-! ## One pass -/

def texts (table : List (String × String)) : List (List Char) := table.map fun r => r.1.toList

def rowAt? (table : List (String × String)) (cs : List Char) : Option (String × String) :=
  table.find? fun r => r.1.toList.isPrefixOf cs

/-- Replaces the texts of all rows in one pass from the left. The number counts
the characters of a place that are still to be passed over. -/
def replaceTogetherFrom (table : List (String × String)) : Nat → List Char → List Char
  | _, [] => []
  | skip + 1, _ :: rest => replaceTogetherFrom table skip rest
  | 0, c :: rest =>
    match rowAt? table (c :: rest) with
    | some r => r.2.toList ++ replaceTogetherFrom table (r.1.toList.length - 1) rest
    | none => c :: replaceTogetherFrom table 0 rest

def replaceTogether (table : List (String × String)) (cs : List Char) : List Char := replaceTogetherFrom table 0 cs

section
variable {table rows : List (String × String)} {row : String × String} {cs rest : List Char}

theorem rowAt?_some (h : rowAt? table cs = some row) : row ∈ table ∧ row.1.toList <+: cs := by
  rw [rowAt?] at h
  have hp := List.find?_some h
  exact ⟨List.mem_of_find?_eq_some h, List.isPrefixOf_iff_prefix.mp hp⟩

theorem rowAt?_none_iff : rowAt? table cs = none ↔ ∀ text ∈ texts table, ¬ text <+: cs := by
  rw [rowAt?, List.find?_eq_none, texts, List.forall_mem_map]
  simp only [List.isPrefixOf_iff_prefix]

theorem rowAt?_cons : rowAt? (row :: rows) cs = if row.1.toList <+: cs then some row else rowAt? rows cs := by
  by_cases h : row.1.toList <+: cs
  · simp [rowAt?, h]
  · simp [rowAt?, h]

theorem replaceTogetherFrom_some (h : rowAt? table (c :: rest) = some row) :
    replaceTogetherFrom table 0 (c :: rest) =
      row.2.toList ++ replaceTogetherFrom table (row.1.toList.length - 1) rest := by
  simp [replaceTogetherFrom, h]

theorem replaceTogetherFrom_none (h : rowAt? table (c :: rest) = none) :
    replaceTogetherFrom table 0 (c :: rest) = c :: replaceTogetherFrom table 0 rest := by
  simp [replaceTogetherFrom, h]

theorem replaceFrom_eq (skip : Nat) (cs : List Char) :
    replaceFrom row.1.toList row.2.toList skip cs = replaceTogetherFrom [row] skip cs := by
  induction cs generalizing skip with
  | nil => cases skip <;> simp [replaceFrom, replaceTogetherFrom]
  | cons c cs ih =>
    cases skip with
    | zero =>
      by_cases h : row.1.toList <+: c :: cs
      · have hrow : rowAt? [row] (c :: cs) = some row := by rw [rowAt?_cons, if_pos h]
        rw [replaceTogetherFrom_some hrow, replaceFrom, if_pos (List.isPrefixOf_iff_prefix.mpr h), ih]
      · have hrow : rowAt? [row] (c :: cs) = none := by
          rw [rowAt?_cons, if_neg h]
          rfl
        rw [replaceTogetherFrom_none hrow, replaceFrom, if_neg (by simpa using h), ih]
    | succ skip => exact ih skip

theorem replaceEach_cons (cs : List Char) : replaceEach (row :: rows) cs = replaceEach rows (replaceTogether [row] cs) := by
  rw [replaceEach, List.foldl_cons, replaceAll, replaceFrom_eq]
  rfl

end

/-! ## Texts without a place -/

def Lacks (texts : List (List Char)) (cs : List Char) : Prop := ∀ text ∈ texts, ¬ text <:+: cs

instance (texts : List (List Char)) (cs : List Char) : Decidable (Lacks texts cs) :=
  inferInstanceAs (Decidable (∀ text ∈ texts, ¬ text <:+: cs))

section
variable {table rows : List (String × String)} {row : String × String} {cs : List Char}

theorem lacks_cons_iff : Lacks (texts (row :: rows)) cs ↔ ¬ row.1.toList <:+: cs ∧ Lacks (texts rows) cs :=
  List.forall_mem_cons

theorem lacks_single_iff : Lacks (texts [row]) cs ↔ ¬ row.1.toList <:+: cs := List.forall_mem_singleton

theorem replaceTogether_lacking (h : Lacks (texts table) cs) : replaceTogether table cs = cs := by
  induction cs with
  | nil => rfl
  | cons c cs ih =>
    have hrow : rowAt? table (c :: cs) = none := by
      rw [rowAt?_none_iff]
      intro text htext hp
      exact h text htext hp.isInfix
    rw [replaceTogether, replaceTogetherFrom_none hrow]
    congr 1
    apply ih
    intro text htext hi
    exact h text htext (List.infix_cons_iff.mpr (.inr hi))

theorem replaceEach_lacking (h : Lacks (texts table) cs) : replaceEach table cs = cs := by
  induction table with
  | nil => rfl
  | cons row rows ih =>
    obtain ⟨hrow, hrows⟩ := lacks_cons_iff.mp h
    rw [replaceEach_cons, replaceTogether_lacking (lacks_single_iff.mpr hrow), ih hrows]

theorem replaceTogetherFrom_unused (skip : Nat) (h : ¬ row.1.toList <:+: cs) :
    replaceTogetherFrom (row :: rows) skip cs = replaceTogetherFrom rows skip cs := by
  induction cs generalizing skip with
  | nil => cases skip <;> rfl
  | cons c cs ih =>
    rw [List.infix_cons_iff, not_or] at h
    cases skip with
    | zero =>
      have hrow : rowAt? (row :: rows) (c :: cs) = rowAt? rows (c :: cs) := by rw [rowAt?_cons, if_neg h.1]
      cases hat : rowAt? rows (c :: cs) with
      | none =>
        rw [hat] at hrow
        rw [replaceTogetherFrom_none hrow, replaceTogetherFrom_none hat, ih _ h.2]
      | some r =>
        rw [hat] at hrow
        rw [replaceTogetherFrom_some hrow, replaceTogetherFrom_some hat, ih _ h.2]
    | succ skip => exact ih skip h.2

end

/-! ## Texts cut in two -/

theorem prefix_cut {text before rest : List Char} {c : Char} (hc : c ∉ text) :
    text <+: before ++ c :: rest ↔ text <+: before := by
  constructor
  · intro h
    rcases List.prefix_or_prefix_of_prefix h (List.prefix_append before (c :: rest)) with hb | ⟨more, rfl⟩
    · exact hb
    · cases more with
      | nil => simp
      | cons d more =>
        rw [List.prefix_append_right_inj, List.cons_prefix_cons] at h
        simp [h.1] at hc
  · intro h
    exact h.trans (List.prefix_append ..)

theorem infix_cut {text before rest : List Char} {c : Char} (htext : text ≠ []) (hc : c ∉ text) :
    text <:+: before ++ c :: rest ↔ text <:+: before ∨ text <:+: rest := by
  induction before with
  | nil =>
    have hstart : ¬ text <+: c :: rest := by
      intro h
      have hnil : text <+: [] := (prefix_cut hc).mp h
      exact htext (List.prefix_nil.mp hnil)
    simp [List.infix_cons_iff, hstart, htext]
  | cons d before ih =>
    rw [List.cons_append, List.infix_cons_iff, ← List.cons_append, prefix_cut hc, ih, List.infix_cons_iff, or_assoc]

/-- Texts that are not empty, none of which stands in another one. -/
structure IsClear (texts : List (List Char)) : Prop where
  nonempty : [] ∉ texts
  apart : texts.Pairwise fun text other => ¬ text <:+: other ∧ ¬ other <:+: text

def IsForeign (texts : List (List Char)) (c : Char) : Prop := ∀ text ∈ texts, c ∉ text

theorem IsClear.tail {text : List Char} {texts : List (List Char)} (h : IsClear (text :: texts)) : IsClear texts where
  nonempty := fun hmem => h.nonempty (List.mem_cons_of_mem _ hmem)
  apart := (List.pairwise_cons.mp h.apart).2

theorem lacks_cut {texts : List (List Char)} {before rest : List Char} {c : Char} (hne : [] ∉ texts) (hc : IsForeign texts c)
    (hb : Lacks texts before) (hr : Lacks texts rest) : Lacks texts (before ++ c :: rest) := by
  intro text htext h
  rcases (infix_cut (ne_of_mem_of_not_mem htext hne) (hc text htext)).mp h with h | h
  · exact hb text htext h
  · exact hr text htext h

section
variable {table rows : List (String × String)} {row : String × String} {before rest : List Char} {c : Char}

theorem isForeign_cons_iff : IsForeign (texts (row :: rows)) c ↔ c ∉ row.1.toList ∧ IsForeign (texts rows) c :=
  List.forall_mem_cons

theorem isForeign_single_iff : IsForeign (texts [row]) c ↔ c ∉ row.1.toList := List.forall_mem_singleton

theorem rowAt?_cut (hc : IsForeign (texts table) c) : rowAt? table (before ++ c :: rest) = rowAt? table before := by
  apply List.find?_congr
  intro r hr
  have htext : c ∉ r.1.toList := hc _ (List.mem_map_of_mem hr)
  rw [Bool.eq_iff_iff, List.isPrefixOf_iff_prefix, List.isPrefixOf_iff_prefix, prefix_cut htext]

theorem replaceTogetherFrom_cut (hne : [] ∉ texts table) (hc : IsForeign (texts table) c) {skip : Nat}
    (hskip : skip ≤ before.length) (rest : List Char) :
    replaceTogetherFrom table skip (before ++ c :: rest) =
      replaceTogetherFrom table skip before ++ c :: replaceTogether table rest := by
  induction before generalizing skip with
  | nil =>
    obtain rfl : skip = 0 := by simpa using hskip
    have hrow : rowAt? table (c :: rest) = none := by
      rw [← List.nil_append (c :: rest), rowAt?_cut hc, rowAt?_none_iff]
      intro text htext hp
      exact ne_of_mem_of_not_mem htext hne (List.prefix_nil.mp hp)
    rw [List.nil_append, replaceTogetherFrom_none hrow]
    rfl
  | cons d before ih =>
    cases skip with
    | zero =>
      have hrow : rowAt? table (d :: before ++ c :: rest) = rowAt? table (d :: before) := rowAt?_cut hc
      rw [List.cons_append] at hrow ⊢
      cases hat : rowAt? table (d :: before) with
      | none =>
        rw [hat] at hrow
        rw [replaceTogetherFrom_none hrow, replaceTogetherFrom_none hat, ih (Nat.zero_le _), List.cons_append]
      | some r =>
        have hlength := (rowAt?_some hat).2.length_le
        rw [hat] at hrow
        rw [List.length_cons] at hlength
        rw [replaceTogetherFrom_some hrow, replaceTogetherFrom_some hat, ih (by omega), List.append_assoc]
    | succ skip => exact ih (by simpa using hskip)

theorem replaceTogether_cut (hne : [] ∉ texts table) (hc : IsForeign (texts table) c) :
    replaceTogether table (before ++ c :: rest) = replaceTogether table before ++ c :: replaceTogether table rest :=
  replaceTogetherFrom_cut hne hc (Nat.zero_le _) rest

theorem replaceEach_cut (hne : [] ∉ texts table) (hc : IsForeign (texts table) c) :
    replaceEach table (before ++ c :: rest) = replaceEach table before ++ c :: replaceEach table rest := by
  induction table generalizing before rest with
  | nil => rfl
  | cons row rows ih =>
    rw [texts, List.map_cons, List.mem_cons, not_or] at hne
    have hfirst : [] ∉ texts [row] := by simpa [texts] using hne.1
    obtain ⟨hcrow, hcrows⟩ := isForeign_cons_iff.mp hc
    rw [replaceEach_cons, replaceTogether_cut hfirst (isForeign_single_iff.mpr hcrow), ih hne.2 hcrows, replaceEach_cons,
      replaceEach_cons]

end

/-! ## One replacement after the other -/

/-- The rows with what the later replacements leave of each value. -/
def settle : List (String × String) → List (String × String)
  | [] => []
  | (text, value) :: rows => (text, String.ofList (replaceEach rows value.toList)) :: settle rows

theorem texts_settle (table : List (String × String)) : texts (settle table) = texts table := by
  induction table with
  | nil => rfl
  | cons row rows ih =>
    rw [settle, texts, List.map_cons]
    exact congrArg _ ih

/-- A text whose places are parted from each other by foreign signs. -/
inductive Laid (texts : List (List Char)) : List Char → Prop where
  | plain {cs : List Char} (h : Lacks texts cs) : Laid texts cs
  | place {text : List Char} (h : text ∈ texts) : Laid texts text
  | join {before rest : List Char} {c : Char} (hc : IsForeign texts c) (hb : Laid texts before) (hr : Laid texts rest) :
    Laid texts (before ++ c :: rest)

section
variable {table rows : List (String × String)} {row : String × String}

theorem rowAt?_place (h : IsClear (texts table)) (hrow : row ∈ table) : rowAt? table row.1.toList = some row := by
  induction table with
  | nil => cases hrow
  | cons first rows ih =>
    rw [rowAt?_cons]
    rcases List.mem_cons.mp hrow with rfl | hrow
    · rw [if_pos (List.prefix_refl _)]
    · have hapart := (List.pairwise_cons.mp h.apart).1 _ (List.mem_map_of_mem hrow)
      rw [if_neg fun hp => hapart.1 hp.isInfix]
      exact ih h.tail hrow

theorem replaceTogetherFrom_length (cs : List Char) : replaceTogetherFrom table cs.length cs = [] := by
  induction cs with
  | nil => rfl
  | cons c cs ih => exact ih

theorem replaceTogether_place (h : IsClear (texts table)) (hrow : row ∈ table) :
    replaceTogether table row.1.toList = row.2.toList := by
  have hat := rowAt?_place h hrow
  have hmem : row.1.toList ∈ texts table := List.mem_map_of_mem hrow
  cases htext : row.1.toList with
  | nil =>
    rw [htext] at hmem
    exact absurd hmem h.nonempty
  | cons c cs =>
    rw [htext] at hat
    rw [replaceTogether, replaceTogetherFrom_some hat, htext, List.length_cons, Nat.add_sub_cancel,
      replaceTogetherFrom_length, List.append_nil]

theorem replaceEach_place (h : IsClear (texts table)) (hrow : row ∈ table) :
    ∃ settled ∈ settle table, settled.1 = row.1 ∧ replaceEach table row.1.toList = settled.2.toList := by
  induction table with
  | nil => cases hrow
  | cons first rows ih =>
    rcases List.mem_cons.mp hrow with rfl | hrow
    · have hclear : IsClear (texts [row]) := ⟨fun hmem => h.nonempty (by simp_all [texts]), List.pairwise_singleton ..⟩
      refine ⟨_, List.mem_cons_self .., rfl, ?_⟩
      rw [replaceEach_cons, replaceTogether_place hclear (List.mem_singleton.mpr rfl), String.toList_ofList]
    · have hapart := (List.pairwise_cons.mp h.apart).1 _ (List.mem_map_of_mem hrow)
      have hlacks : Lacks (texts [first]) row.1.toList := lacks_single_iff.mpr hapart.1
      obtain ⟨settled, hmem, hsame, heach⟩ := ih h.tail hrow
      refine ⟨settled, List.mem_cons_of_mem _ hmem, hsame, ?_⟩
      rw [replaceEach_cons, replaceTogether_lacking hlacks, heach]

/-- **One replacement after the other is a single pass** with the values that
the later replacements leave. -/
theorem replaceEach_eq_together {cs : List Char} (h : IsClear (texts table)) (hcs : Laid (texts table) cs) :
    replaceEach table cs = replaceTogether (settle table) cs := by
  have hsettled := texts_settle table
  induction hcs with
  | plain hlacks => rw [replaceEach_lacking hlacks, replaceTogether_lacking (hsettled ▸ hlacks)]
  | place htext =>
    obtain ⟨row, hrow, rfl⟩ := List.mem_map.mp htext
    obtain ⟨settled, hmem, hsame, heach⟩ := replaceEach_place h hrow
    rw [heach, ← hsame, replaceTogether_place (hsettled ▸ h) hmem]
  | join hc _ _ hb hr =>
    rw [replaceEach_cut h.nonempty hc, replaceTogether_cut (hsettled ▸ h.nonempty) (hsettled ▸ hc), hb, hr]

end

/-- A text is laid out if each word of it, between foreign signs, is a text or
lacks them all. -/
theorem laid_of_words {texts : List (List Char)} {p : Char → Bool} (hp : ∀ c, p c = true → IsForeign texts c) {cs : List Char}
    (h : ∀ word ∈ cs.splitOnP p, word ∈ texts ∨ Lacks texts word) : Laid texts cs := by
  have hword {word : List Char} (h : word ∈ texts ∨ Lacks texts word) : Laid texts word := h.elim .place .plain
  -- the induction is on what is still to be read of the word at hand
  suffices hall : ∀ cs before : List Char, (∀ c ∈ before, p c = false) →
      (∀ word ∈ (before ++ cs).splitOnP p, word ∈ texts ∨ Lacks texts word) → Laid texts (before ++ cs) from
    hall cs [] (by simp) h
  intro cs
  induction cs with
  | nil =>
    intro before hbefore h
    rw [List.append_nil] at h ⊢
    rw [List.splitOnP_eq_singleton hbefore] at h
    exact hword (h before (List.mem_singleton.mpr rfl))
  | cons c cs ih =>
    intro before hbefore h
    by_cases hc : p c = true
    · rw [List.splitOnP_append_cons_of_forall_mem hbefore c hc, List.forall_mem_cons] at h
      exact .join (hp c hc) (hword h.1) (ih [] (by simp) h.2)
    · rw [List.append_cons] at h ⊢
      apply ih _ _ h
      intro d hd
      rcases List.mem_append.mp hd with hd | hd
      · exact hbefore d hd
      · simpa [List.mem_singleton.mp hd] using hc

/-! ## Signs that get fewer -/

/-- Rows that put in fewer of some sign than they take out. -/
def Thins (sign : Char) (table : List (String × String)) : Prop :=
  ∀ row ∈ table, row.2.toList.count sign < row.1.toList.count sign

instance (sign : Char) (table : List (String × String)) : Decidable (Thins sign table) :=
  inferInstanceAs (Decidable (∀ row ∈ table, _ < _))

theorem cut_at_place {text rest : List Char} {c : Char} (htext : text ≠ []) (h : text <+: c :: rest) :
    c :: rest = text ++ rest.drop (text.length - 1) := by
  obtain ⟨more, hmore⟩ := h
  cases text with
  | nil => exact absurd rfl htext
  | cons d text =>
    rw [List.cons_append, List.cons.injEq] at hmore
    obtain ⟨rfl, rfl⟩ := hmore
    simp

section
variable {table rows : List (String × String)} {sign : Char}

theorem Thins.ne_nil (h : Thins sign table) {row : String × String} (hrow : row ∈ table) : row.1.toList ≠ [] := by
  intro hnil
  simpa [hnil] using h row hrow

theorem count_replaceTogetherFrom_le (h : Thins sign table) (skip : Nat) (cs : List Char) :
    (replaceTogetherFrom table skip cs).count sign ≤ (cs.drop skip).count sign := by
  induction cs generalizing skip with
  | nil => cases skip <;> simp [replaceTogetherFrom]
  | cons c cs ih =>
    cases skip with
    | zero =>
      cases hat : rowAt? table (c :: cs) with
      | none =>
        have hrest := ih 0
        rw [replaceTogetherFrom_none hat]
        simp only [List.drop_zero, List.count_cons] at hrest ⊢
        omega
      | some row =>
        obtain ⟨hrow, hp⟩ := rowAt?_some hat
        have hless := h row hrow
        have hrest := ih (row.1.toList.length - 1)
        rw [replaceTogetherFrom_some hat, List.drop_zero, cut_at_place (h.ne_nil hrow) hp, List.count_append,
          List.count_append]
        omega
    | succ skip => exact ih skip

theorem lacks_or_thinner (h : Thins sign table) (cs : List Char) :
    Lacks (texts table) cs ∨ (replaceTogether table cs).count sign < cs.count sign := by
  induction cs with
  | nil =>
    refine .inl fun text htext hi => ?_
    obtain ⟨row, hrow, rfl⟩ := List.mem_map.mp htext
    exact h.ne_nil hrow (List.infix_nil.mp hi)
  | cons c cs ih =>
    cases hat : rowAt? table (c :: cs) with
    | none =>
      rw [replaceTogether, replaceTogetherFrom_none hat, List.count_cons, List.count_cons]
      rcases ih with hlacks | hless
      · refine .inl fun text htext hi => ?_
        rcases List.infix_cons_iff.mp hi with hp | hi
        · exact rowAt?_none_iff.mp hat text htext hp
        · exact hlacks text htext hi
      · exact .inr (Nat.add_lt_add_right hless _)
    | some row =>
      obtain ⟨hrow, hp⟩ := rowAt?_some hat
      have hless := h row hrow
      have hrest := count_replaceTogetherFrom_le h (row.1.toList.length - 1) cs
      right
      rw [replaceTogether, replaceTogetherFrom_some hat, cut_at_place (h.ne_nil hrow) hp, List.count_append,
        List.count_append]
      omega

theorem replaceEach_lacks_or_thinner (h : Thins sign table) (cs : List Char) :
    Lacks (texts table) cs ∨ (replaceEach table cs).count sign < cs.count sign := by
  induction table generalizing cs with
  | nil => exact .inl (by simp [Lacks, texts])
  | cons row rows ih =>
    obtain ⟨hfirst, hrows⟩ := List.forall_mem_cons.mp h
    have hrow : Thins sign [row] := List.forall_mem_singleton.mpr hfirst
    rw [replaceEach_cons]
    rcases lacks_or_thinner hrow cs with hlacks | hless
    · rw [replaceTogether_lacking hlacks]
      refine (ih hrows cs).imp_left fun hrest => ?_
      exact lacks_cons_iff.mpr ⟨lacks_single_iff.mp hlacks, hrest⟩
    · right
      refine Nat.lt_of_le_of_lt ?_ hless
      rcases ih hrows (replaceTogether [row] cs) with hlacks | hless'
      · rw [replaceEach_lacking hlacks]
      · exact Nat.le_of_lt hless'

/-- A value with more of a sign leaves more of it in the text. -/
theorem count_replaceTogetherFrom_mono {text value value' : String} (h : value.toList.count sign ≤ value'.toList.count sign)
    (skip : Nat) (cs : List Char) : (replaceTogetherFrom ((text, value) :: rows) skip cs).count sign ≤
      (replaceTogetherFrom ((text, value') :: rows) skip cs).count sign := by
  induction cs generalizing skip with
  | nil => cases skip <;> simp [replaceTogetherFrom]
  | cons c cs ih =>
    cases skip with
    | zero =>
      by_cases hp : text.toList <+: c :: cs
      · have hat (value : String) : rowAt? ((text, value) :: rows) (c :: cs) = some (text, value) := by
          rw [rowAt?_cons, if_pos hp]
        have hrest := ih (text.toList.length - 1)
        rw [replaceTogetherFrom_some (hat value), replaceTogetherFrom_some (hat value'), List.count_append,
          List.count_append]
        exact Nat.add_le_add h hrest
      · have hat (value : String) : rowAt? ((text, value) :: rows) (c :: cs) = rowAt? rows (c :: cs) := by
          rw [rowAt?_cons, if_neg hp]
        cases hrow : rowAt? rows (c :: cs) with
        | none =>
          have hrest := ih 0
          rw [replaceTogetherFrom_none ((hat value).trans hrow), replaceTogetherFrom_none ((hat value').trans hrow),
            List.count_cons, List.count_cons]
          omega
        | some row =>
          have hrest := ih (row.1.toList.length - 1)
          rw [replaceTogetherFrom_some ((hat value).trans hrow), replaceTogetherFrom_some ((hat value').trans hrow),
            List.count_append, List.count_append]
          omega
    | succ skip => exact ih skip

/-- So it does where the text has a place of its own. -/
theorem count_replaceTogether_lt {text value value' : String} (h : value.toList.count sign < value'.toList.count sign)
    (hclear : IsClear (texts ((text, value) :: rows))) {c d : Char} (hc : IsForeign (texts ((text, value) :: rows)) c)
    (hd : IsForeign (texts ((text, value) :: rows)) d) (before rest : List Char) :
    (replaceTogether ((text, value) :: rows) (before ++ c :: (text.toList ++ d :: rest))).count sign <
      (replaceTogether ((text, value') :: rows) (before ++ c :: (text.toList ++ d :: rest))).count sign := by
  have hclear' : IsClear (texts ((text, value') :: rows)) := hclear
  have hplace : replaceTogether ((text, value) :: rows) text.toList = value.toList :=
    replaceTogether_place hclear (List.mem_cons_self ..)
  have hplace' : replaceTogether ((text, value') :: rows) text.toList = value'.toList :=
    replaceTogether_place hclear' (List.mem_cons_self ..)
  have hmore (cs : List Char) : (replaceTogether ((text, value) :: rows) cs).count sign ≤
      (replaceTogether ((text, value') :: rows) cs).count sign :=
    count_replaceTogetherFrom_mono (Nat.le_of_lt h) 0 cs
  have hbefore := hmore before
  have hrest := hmore rest
  rw [replaceTogether_cut hclear.nonempty hc, replaceTogether_cut hclear.nonempty hd, hplace,
    replaceTogether_cut hclear'.nonempty hc, replaceTogether_cut hclear'.nonempty hd, hplace']
  simp only [List.count_append, List.count_cons]
  omega

end

end BrowserPilot.Text
