import BrowserPilot.Proofs.Text.Lines
import BrowserPilot.Proofs.Text.Search

/-!
# Where a search finds something

A search finds the first place of a text, counted from the left, at which its
matcher succeeds. What a matcher of fixed texts and rows of characters reads
can be said by the text alone.
-/

namespace BrowserPilot.Text

/-! ## Places -/

/-- Whether a word character stands right before what follows a text; `b` says
so for the empty text. -/
def endsInWord (b : Bool) (before : List Char) : Bool := (before.getLast?.map isWord).getD b

theorem endsInWord_cons (b : Bool) (c : Char) (before : List Char) :
    endsInWord b (c :: before) = endsInWord (isWord c) before := by
  rw [endsInWord, endsInWord, List.getLast?_cons]
  cases before.getLast? <;> rfl

def IsPlace (atWord b : Bool) (before : List Char) : Prop := (atWord && endsInWord b before) = false

theorem isPlace_cons {atWord b : Bool} {c : Char} {before : List Char} :
    IsPlace atWord b (c :: before) ↔ IsPlace atWord (isWord c) before := by
  rw [IsPlace, IsPlace, endsInWord_cons]

section
variable {α : Type} {atWord b : Bool} {m : List Char → Option α} {cs : List Char} {a : α}

/-- The first place at which a matcher succeeds is behind `before`. -/
structure FirstPlace (atWord b : Bool) (m : List Char → Option α) (cs before rest : List Char) (a : α) : Prop where
  cut : cs = before ++ rest
  place : IsPlace atWord b before
  found : m rest = some a
  first : ∀ before' rest', cs = before' ++ rest' → IsPlace atWord b before' → (m rest').isSome = true →
    before.length ≤ before'.length

theorem FirstPlace.of_cons {c : Char} {before rest : List Char} (h : FirstPlace atWord (isWord c) m cs before rest a)
    (hc : IsPlace atWord b [] → m (c :: cs) = none) : FirstPlace atWord b m (c :: cs) (c :: before) rest a where
  cut := by rw [h.cut, List.cons_append]
  place := isPlace_cons.mpr h.place
  found := h.found
  first := by
    intro before' rest' hcut hp hs
    cases before' with
    | nil =>
      rw [List.nil_append] at hcut
      rw [← hcut, hc hp] at hs
      cases hs
    | cons c' before' =>
      obtain ⟨rfl, htail⟩ := List.cons.inj hcut
      exact Nat.succ_le_succ (h.first before' rest' htail (isPlace_cons.mp hp) hs)

theorem isPlace_nil : IsPlace atWord b [] ↔ ¬(atWord && b) = true := by
  rw [Bool.not_eq_true]
  rfl

theorem firstPlace_nil (hp : ¬(atWord && b) = true) (hm : m cs = some a) : FirstPlace atWord b m cs [] cs a :=
  ⟨rfl, isPlace_nil.mpr hp, hm, fun _ _ _ _ _ => Nat.zero_le _⟩

theorem firstFrom_eq_none_iff : firstFrom atWord m b cs = none ↔
    ∀ before rest, cs = before ++ rest → IsPlace atWord b before → m rest = none := by
  constructor
  · intro h before rest hcut hp
    induction before generalizing b cs with
    | nil =>
      have hp := isPlace_nil.mp hp
      obtain rfl : cs = rest := hcut
      cases cs with
      | nil => rwa [firstFrom, if_neg hp] at h
      | cons c cs =>
        rw [firstFrom, if_neg hp] at h
        split at h
        · cases h
        · next hm => exact hm
    | cons c before ih =>
      subst hcut
      rw [List.cons_append, firstFrom] at h
      split at h
      · cases h
      · exact ih h rfl (isPlace_cons.mp hp)
  · intro h
    induction cs generalizing b with
    | nil =>
      rw [firstFrom]
      split
      · rfl
      · next hp => exact h [] [] rfl (isPlace_nil.mpr hp)
    | cons c cs ih =>
      have htail : firstFrom atWord m (isWord c) cs = none :=
        ih fun before rest hcut hp => h (c :: before) rest (by rw [hcut, List.cons_append]) (isPlace_cons.mpr hp)
      rw [firstFrom, htail]
      split
      · next ha =>
        split at ha
        · cases ha
        · next hp =>
          rw [h [] (c :: cs) rfl (isPlace_nil.mpr hp)] at ha
          cases ha
      · rfl

theorem exists_firstPlace (h : firstFrom atWord m b cs = some a) : ∃ before rest, FirstPlace atWord b m cs before rest a := by
  induction cs generalizing b with
  | nil =>
    rw [firstFrom] at h
    split at h
    · cases h
    · next hp => exact ⟨[], [], firstPlace_nil hp h⟩
  | cons c cs ih =>
    rw [firstFrom] at h
    split at h
    · next ha =>
      cases h
      split at ha
      · cases ha
      · next hp => exact ⟨[], c :: cs, firstPlace_nil hp ha⟩
    · next hn =>
      obtain ⟨before, rest, hf⟩ := ih h
      refine ⟨c :: before, rest, hf.of_cons fun hp => ?_⟩
      rwa [if_neg (isPlace_nil.mp hp)] at hn

theorem FirstPlace.unique {before before' rest rest' : List Char} {a' : α} (h : FirstPlace atWord b m cs before rest a)
    (h' : FirstPlace atWord b m cs before' rest' a') : before = before' ∧ rest = rest' ∧ a = a' := by
  have hle := h.first before' rest' h'.cut h'.place (by rw [h'.found]; rfl)
  have hge := h'.first before rest h.cut h.place (by rw [h.found]; rfl)
  obtain ⟨rfl, rfl⟩ := List.append_inj (h.cut.symm.trans h'.cut) (by omega)
  exact ⟨rfl, rfl, Option.some.inj (h.found.symm.trans h'.found)⟩

theorem firstFrom_eq_some_iff : firstFrom atWord m b cs = some a ↔ ∃ before rest, FirstPlace atWord b m cs before rest a := by
  refine ⟨exists_firstPlace, fun ⟨before, rest, h⟩ => ?_⟩
  cases hf : firstFrom atWord m b cs with
  | none =>
    cases h.found.symm.trans (firstFrom_eq_none_iff.mp hf before rest h.cut h.place)
  | some a' =>
    obtain ⟨before', rest', h'⟩ := exists_firstPlace hf
    rw [(h.unique h').2.2]

end

/-! ## What matchers read -/

/-- Of several fixed texts at most one starts a text. -/
def Apart (lits : List (List Char)) : Prop := ∀ lit ∈ lits, ∀ lit' ∈ lits, lit <+: lit' → lit = lit'

theorem Apart.eq_of_append {lits : List (List Char)} (h : Apart lits) {lit lit' rest rest' : List Char} (hl : lit ∈ lits)
    (hl' : lit' ∈ lits) (he : lit ++ rest = lit' ++ rest') : lit = lit' := by
  rcases List.prefix_or_prefix_of_prefix (List.prefix_append lit rest) (he ▸ List.prefix_append lit' rest') with hp | hp
  · exact h lit hl lit' hl' hp
  · exact (h lit' hl' lit hl hp).symm

theorem afterAny?_eq_some_iff {lits : List (List Char)} (h : Apart lits) {cs rest : List Char} :
    afterAny? lits cs = some rest ↔ ∃ lit ∈ lits, cs = lit ++ rest := by
  refine ⟨afterAny?_some, fun ⟨lit, hl, hcs⟩ => ?_⟩
  cases ha : afterAny? lits cs with
  | none =>
    have hn := List.findSome?_eq_none_iff.mp ha lit hl
    rw [hcs, after?_append] at hn
    cases hn
  | some rest' =>
    obtain ⟨lit', hl', hcs'⟩ := afterAny?_some ha
    have he : lit ++ rest = lit' ++ rest' := hcs.symm.trans hcs'
    rw [h.eq_of_append hl hl' he] at he
    rw [List.append_cancel_left he]

theorem contains_iff {lit cs : List Char} : contains lit cs = true ↔ lit <:+: cs := by
  rw [contains, firstAt, Option.isSome_iff_exists]
  constructor
  · rintro ⟨rest, h⟩
    obtain ⟨before, _, hf⟩ := exists_firstPlace h
    exact ⟨before, rest, by rw [List.append_assoc, ← after?_some hf.found, hf.cut]⟩
  · rintro ⟨before, rest, rfl⟩
    cases hf : firstFrom false (after? lit) false (before ++ lit ++ rest) with
    | none =>
      have hn := firstFrom_eq_none_iff.mp hf before (lit ++ rest) (List.append_assoc ..) rfl
      rw [after?_append] at hn
      cases hn
    | some r => exact ⟨r, rfl⟩

def Spells (word text : List Char) : Prop := List.Forall₂ (fun l c => sameLetter l c = true) word text

theorem Spells.missing {word text : List Char} {q : Char} (h : Spells word text)
    (hq : word.all (fun l => !sameLetter l q) = true) : q ∉ text := by
  induction h with
  | nil => simp
  | @cons l c word text hc _ ih =>
    simp only [List.all_cons, Bool.and_eq_true, Bool.not_eq_true'] at hq
    simp only [List.mem_cons, not_or]
    refine ⟨?_, ih hq.2⟩
    rintro rfl
    cases hc.symm.trans hq.1

theorem afterWord?_eq_some_iff {word cs rest : List Char} :
    afterWord? word cs = some rest ↔ ∃ text, Spells word text ∧ cs = text ++ rest := by
  induction word generalizing cs with
  | nil =>
    constructor
    · intro h
      exact ⟨[], .nil, Option.some.inj h⟩
    · rintro ⟨text, ht, rfl⟩
      cases ht
      rfl
  | cons l word ih =>
    constructor
    · intro h
      cases cs with
      | nil => cases h
      | cons c cs =>
        rw [afterWord?] at h
        split at h
        · next hc =>
          obtain ⟨text, ht, rfl⟩ := ih.mp h
          exact ⟨c :: text, .cons hc ht, rfl⟩
        · cases h
    · rintro ⟨text, ht, rfl⟩
      cases ht with
      | cons hc ht =>
        rw [List.cons_append, afterWord?, if_pos hc]
        exact ih.mpr ⟨_, ht, rfl⟩

structure Row (p : Char → Bool) (row rest : List Char) : Prop where
  all : ∀ c ∈ row, p c = true
  stop : ∀ c, rest.head? = some c → p c = false

section
variable {p : Char → Bool} {row rest : List Char}

theorem row_cons {q : Char} (h : ∀ c ∈ row, p c = true) (hq : p q = false) : Row p row (q :: rest) where
  all := h
  stop := fun c hc => by
    cases hc
    exact hq

theorem Row.takeWhile_eq (h : Row p row rest) : (row ++ rest).takeWhile p = row := by
  rw [List.takeWhile_append_of_pos h.all]
  cases rest with
  | nil => simp
  | cons c rest => rw [List.takeWhile_cons_of_neg (by simp [h.stop c rfl]), List.append_nil]

theorem Row.dropWhile_eq (h : Row p row rest) : (row ++ rest).dropWhile p = rest := by
  rw [List.dropWhile_append_of_pos h.all]
  cases rest with
  | nil => rfl
  | cons c rest => rw [List.dropWhile_cons_of_neg (by simp [h.stop c rfl])]

theorem row_takeWhile (p : Char → Bool) (cs : List Char) : Row p (cs.takeWhile p) (cs.dropWhile p) where
  all := fun _ hc => List.all_eq_true.mp List.all_takeWhile _ hc
  stop := fun c hc => by
    have h := List.head?_dropWhile_not p cs
    rw [hc] at h
    simpa using h

end

/-! ## Blanks -/

def blankCodes : List Nat := [
  0x09, 0x0A, 0x0B, 0x0C, 0x0D, 0x1C, 0x1D, 0x1E, 0x1F, 0x20, 0x85, 0xA0, 0x1680, 0x2000, 0x2001, 0x2002, 0x2003, 0x2004,
  0x2005, 0x2006, 0x2007, 0x2008, 0x2009, 0x200A, 0x2028, 0x2029, 0x202F, 0x205F, 0x3000]

theorem toNat_mem_blankCodes {c : Char} (h : isBlank c = true) : c.toNat ∈ blankCodes := by
  simp only [isBlank, Bool.or_eq_true, Bool.and_eq_true, decide_eq_true_eq, beq_iff_eq] at h
  simp only [blankCodes, List.mem_cons, List.not_mem_nil, or_false]
  omega

theorem not_isWord_of_isBlank {c : Char} (h : isBlank c = true) : isWord c = false ∧ isDigit c = false := by
  have hall : ∀ n ∈ blankCodes, isWord (Char.ofNat n) = false ∧ isDigit (Char.ofNat n) = false := by decide +kernel
  have hc := hall c.toNat (toNat_mem_blankCodes h)
  rwa [Char.ofNat_toNat] at hc

theorem digit_not_isBlank {c : Char} (h : isDigit c = true) : isBlank c = false := by
  cases hb : isBlank c with
  | false => rfl
  | true => cases (not_isWord_of_isBlank hb).2.symm.trans h

theorem exists_blanks_trim (line : List Char) : ∃ before after, line = before ++ (trim line ++ after) ∧
    (∀ c ∈ before, isBlank c = true) ∧ ∀ c ∈ after, isBlank c = true := by
  refine ⟨line.takeWhile isBlank, ((line.dropWhile isBlank).reverse.takeWhile isBlank).reverse, ?_,
    (row_takeWhile isBlank line).all, ?_⟩
  · rw [trim, trimBy, ← List.reverse_append, List.takeWhile_append_dropWhile, List.reverse_reverse,
      List.takeWhile_append_dropWhile]
  · intro c hc
    exact (row_takeWhile isBlank _).all c (List.mem_reverse.mp hc)

theorem trim_padded {before text after : List Char} {c d : Char} (hb : ∀ c ∈ before, isBlank c = true)
    (ha : ∀ c ∈ after, isBlank c = true) (hc : text.head? = some c) (hd : text.getLast? = some d) (hc' : isBlank c = false)
    (hd' : isBlank d = false) : trim (before ++ (text ++ after)) = text := by
  have hstart : (before ++ (text ++ after)).dropWhile isBlank = text ++ after := by
    rw [List.dropWhile_append_of_pos hb]
    refine dropWhile_of_head? (c := c) ?_ hc'
    rw [List.head?_append, hc, Option.some_or]
  have hend : (text ++ after).reverse.dropWhile isBlank = text.reverse := by
    rw [List.reverse_append, List.dropWhile_append_of_pos fun x hx => ha x (List.mem_reverse.mp hx)]
    exact dropWhile_of_head? (by rwa [List.head?_reverse]) hd'
  rw [trim, trimBy, hstart, hend, List.reverse_reverse]

theorem not_isBlank_head_trim {line : List Char} {c : Char} (h : (trim line).head? = some c) : isBlank c = false := by
  have hp : trim line <+: line.dropWhile isBlank := by
    rw [trim, trimBy, ← List.reverse_suffix, List.reverse_reverse]
    exact List.dropWhile_suffix isBlank
  obtain ⟨rest, hr⟩ := hp
  have hnot := List.head?_dropWhile_not isBlank line
  rw [← hr, List.head?_append, h, Option.some_or] at hnot
  simpa using hnot

theorem not_isBlank_getLast_trim {line : List Char} {c : Char} (h : (trim line).getLast? = some c) : isBlank c = false := by
  rw [trim, trimBy, List.getLast?_reverse] at h
  have hnot := List.head?_dropWhile_not isBlank (line.dropWhile isBlank).reverse
  rw [h] at hnot
  simpa using hnot

/-! ## Texts on one side of a sign -/

/-- A text without some sign that neither begins nor ends with a blank. -/
structure Compact (q : Char) (text : List Char) : Prop where
  missing : q ∉ text
  head : text.head?.map isBlank = some false
  last : text.getLast?.map isBlank = some false

instance (q : Char) (text : List Char) : Decidable (Compact q text) :=
  decidable_of_iff (q ∉ text ∧ text.head?.map isBlank = some false ∧ text.getLast?.map isBlank = some false)
    ⟨fun h => ⟨h.1, h.2.1, h.2.2⟩, fun h => ⟨h.missing, h.head, h.last⟩⟩

section
variable {q : Char} {text first second gap gap' before after : List Char}

theorem Compact.behind_blanks (h : Compact q text) (hgap : ∀ c ∈ gap, isBlank c = true)
    (hcut : gap ++ second = before ++ (text ++ after)) : ∃ more, before = gap ++ more ∧ second = more ++ (text ++ after) := by
  rcases List.append_eq_append_iff.mp hcut with ⟨more, hbefore, hsecond⟩ | ⟨more, hbefore, htext⟩
  · exact ⟨more, hbefore, hsecond⟩
  · cases more with
    | nil => exact ⟨[], by simpa using hbefore.symm, htext.symm⟩
    | cons b more =>
      have hhead := h.head
      cases text with
      | nil => cases hhead
      | cons c text =>
        obtain ⟨rfl, _⟩ := List.cons.inj htext
        simp [hgap c (by simp [hbefore])] at hhead

theorem Compact.before_blanks (h : Compact q text) (hgap : ∀ c ∈ gap, isBlank c = true)
    (hcut : first ++ gap = before ++ (text ++ after)) : ∃ more, first = before ++ (text ++ more) ∧ after = more ++ gap := by
  rw [← List.append_assoc] at hcut
  rcases List.append_eq_append_iff.mp hcut with ⟨more, htext, hgap'⟩ | ⟨more, hfirst, hafter⟩
  · cases hlast : more.getLast? with
    | none =>
      obtain rfl : more = [] := List.getLast?_eq_none_iff.mp hlast
      exact ⟨[], by simpa using htext.symm, hgap'.symm⟩
    | some c =>
      have hc : isBlank c = true := hgap c (by simp [hgap', List.mem_of_getLast? hlast])
      have hsame := congrArg List.getLast? htext
      rw [List.getLast?_append, List.getLast?_append, hlast, Option.some_or] at hsame
      have hend := h.last
      cases ht : text.getLast? with
      | none =>
        rw [ht] at hend
        cases hend
      | some d =>
        rw [ht] at hsame hend
        cases hsame
        simp [hc] at hend
  · exact ⟨more, by simpa using hfirst, hafter⟩

theorem Compact.beside (h : Compact q text) (hcut : first ++ q :: second = before ++ (text ++ after)) :
    (∃ more, first = before ++ (text ++ more) ∧ after = more ++ q :: second) ∨
      ∃ more, before = first ++ q :: more ∧ second = more ++ (text ++ after) := by
  rcases List.append_eq_append_iff.mp hcut with ⟨more, hbefore, hsecond⟩ | ⟨more, hfirst, hrest⟩
  · cases more with
    | nil =>
      have hhead := h.head
      cases text with
      | nil => cases hhead
      | cons c text =>
        obtain ⟨rfl, _⟩ := List.cons.inj hsecond
        exact absurd (List.mem_cons_self ..) h.missing
    | cons c more =>
      obtain ⟨rfl, htail⟩ := List.cons.inj hsecond
      exact .inr ⟨more, hbefore, htail⟩
  · rcases List.append_eq_append_iff.mp hrest with ⟨left, hmore, hafter⟩ | ⟨left, htext, hafter⟩
    · exact .inl ⟨left, by rw [hfirst, hmore], hafter⟩
    · cases left with
      | nil => exact .inl ⟨[], by simp [hfirst, htext], by simpa using hafter.symm⟩
      | cons c left =>
        obtain ⟨rfl, _⟩ := List.cons.inj hafter
        exact absurd (by simp [htext]) h.missing

/-- A compact text in two that are joined by a sign with blanks around it
stands in one of them. -/
theorem Compact.in_joined (h : Compact q text) (hgap : ∀ c ∈ gap, isBlank c = true) (hgap' : ∀ c ∈ gap', isBlank c = true)
    (hcut : first ++ (gap ++ q :: (gap' ++ second)) = before ++ (text ++ after)) :
    (∃ more, first = before ++ (text ++ more) ∧ more <+: after) ∨
      ∃ more, second = more ++ (text ++ after) ∧ more <:+ before ∧ first.length ≤ before.length := by
  rw [← List.append_assoc] at hcut
  rcases h.beside hcut with ⟨more, hfirst, hafter⟩ | ⟨more, hbefore, hsecond⟩
  · obtain ⟨more', hfirst', hmore⟩ := h.before_blanks hgap hfirst
    exact .inl ⟨more', hfirst', by rw [hafter, hmore, List.append_assoc]; exact List.prefix_append ..⟩
  · obtain ⟨more', hmore, hsecond'⟩ := h.behind_blanks hgap' hsecond
    refine .inr ⟨more', hsecond', ⟨first ++ gap ++ q :: gap', ?_⟩, ?_⟩
    · simp [hbefore, hmore]
    · simp only [hbefore, List.length_append]
      omega

end

end BrowserPilot.Text
