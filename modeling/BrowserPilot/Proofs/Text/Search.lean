import BrowserPilot.Text.Search
import Mathlib.Data.List.Basic

/-!
# Searches in a text cut in two

A matcher that never looks past some character finds the same things in a
text cut at that character as in its two parts: first what is in the first
part, then what is in the second.
-/

namespace BrowserPilot.Text

theorem dropWhile_append_stop {p : Char → Bool} {q : Char} (hq : p q = false) (before rest : List Char) :
    (before ++ q :: rest).dropWhile p = before.dropWhile p ++ q :: rest := by
  rw [List.dropWhile_append]
  split
  · next h => rw [List.isEmpty_iff.mp h, List.nil_append, List.dropWhile_cons_of_neg (by simp [hq])]
  · rfl

theorem takeWhile_append_stop {p : Char → Bool} {q : Char} (hq : p q = false) (before rest : List Char) :
    (before ++ q :: rest).takeWhile p = before.takeWhile p := by
  rw [List.takeWhile_append]
  split
  · next h =>
    have hall : before.takeWhile p = before := (List.takeWhile_sublist p).eq_of_length h
    rw [List.takeWhile_cons_of_neg (by simp [hq]), List.append_nil, hall]
  · rfl

/-! ## Places of a match -/

section
variable {α β : Type} {atWord : Bool} {m : List Char → Option α}

theorem firstFrom_map (f : α → β) (b : Bool) (cs : List Char) :
    firstFrom atWord (fun cs => (m cs).map f) b cs = (firstFrom atWord m b cs).map f := by
  induction cs generalizing b with
  | nil => cases h : atWord && b <;> simp [firstFrom, h]
  | cons c rest ih =>
    cases h : atWord && b with
    | true => simp [firstFrom, h, ih]
    | false => cases hm : m (c :: rest) <;> simp [firstFrom, h, hm, ih]

theorem firstFrom_head {a : α} {cs : List Char} (h : m cs = some a) : firstFrom atWord m false cs = some a := by
  cases cs <;> simp [firstFrom, h]

theorem firstFrom_place {a : α} {b : Bool} {cs : List Char} (h : firstFrom atWord m b cs = some a) :
    ∃ s, s <:+ cs ∧ m s = some a := by
  induction cs generalizing b with
  | nil =>
    rw [firstFrom] at h
    split at h
    · cases h
    · exact ⟨[], List.suffix_refl _, h⟩
  | cons c rest ih =>
    rw [firstFrom] at h
    split at h
    · next a' ha =>
      cases h
      refine ⟨c :: rest, List.suffix_refl _, ?_⟩
      split at ha
      · cases ha
      · exact ha
    · obtain ⟨s, hs, hm⟩ := ih h
      exact ⟨s, hs.trans (List.suffix_cons c rest), hm⟩

/-- Nothing is found where a character that every match needs is missing. -/
theorem firstFrom_missing {c : Char} {b : Bool} {cs : List Char} (hm : ∀ s a, m s = some a → c ∈ s) (hc : c ∉ cs) :
    firstFrom atWord m b cs = none := by
  cases h : firstFrom atWord m b cs with
  | none => rfl
  | some a =>
    obtain ⟨s, hs, ha⟩ := firstFrom_place h
    exact absurd (hs.subset (hm s a ha)) hc

/-! ## Matchers that stop at a character -/

/-- A matcher that reads nothing of what stands behind a character. -/
structure StopsAt (q : Char) (m : List Char → Option α) : Prop where
  nil : m [] = none
  cut : ∀ before rest, m (before ++ q :: rest) = m before

theorem StopsAt.firstFrom_append {q : Char} (hm : StopsAt q m) (b : Bool) (before rest : List Char) :
    firstFrom atWord m b (before ++ q :: rest) =
      (firstFrom atWord m b before).or (firstFrom atWord m (isWord q) rest) := by
  induction before generalizing b with
  | nil =>
    have hq : m (q :: rest) = none := (hm.cut [] rest).trans hm.nil
    simp [firstFrom, hq, hm.nil]
  | cons c before ih =>
    have hc : m (c :: (before ++ q :: rest)) = m (c :: before) := hm.cut (c :: before) rest
    cases h : atWord && b with
    | true => simp [firstFrom, h, ih]
    | false => cases hv : m (c :: before) <;> simp [firstFrom, h, hc, hv, ih]

end

/-! ## Fixed texts -/

theorem after?_append (lit rest : List Char) : after? lit (lit ++ rest) = some rest := by
  induction lit with
  | nil => rfl
  | cons l lit ih =>
    rw [List.cons_append, after?, List.isPrefixOf?, if_pos (beq_self_eq_true l)]
    exact ih

theorem after?_some {lit cs rest : List Char} (h : after? lit cs = some rest) : cs = lit ++ rest := by
  induction lit generalizing cs with
  | nil => simpa [after?, List.isPrefixOf?] using h
  | cons l lit ih =>
    cases cs with
    | nil => simp [after?, List.isPrefixOf?] at h
    | cons c cs =>
      by_cases hc : l = c
      · subst hc
        simp only [after?, List.isPrefixOf?, beq_self_eq_true, if_true] at h
        rw [ih h, List.cons_append]
      · simp [after?, List.isPrefixOf?, hc] at h

theorem after?_cut {q : Char} {lit : List Char} (hq : q ∉ lit) (before rest : List Char) :
    after? lit (before ++ q :: rest) = (after? lit before).map (· ++ q :: rest) := by
  induction lit generalizing before with
  | nil => simp [after?, List.isPrefixOf?]
  | cons l lit ih =>
    have hl : l ≠ q := fun h => hq (by simp [h])
    have ih := ih fun h => hq (by simp [h])
    cases before with
    | nil => simp [after?, List.isPrefixOf?, hl]
    | cons c before =>
      by_cases hc : l = c
      · simpa [after?, List.isPrefixOf?, hc] using ih before
      · simp [after?, List.isPrefixOf?, hc]

theorem afterAny?_some {lits : List (List Char)} {cs rest : List Char} (h : afterAny? lits cs = some rest) :
    ∃ lit ∈ lits, cs = lit ++ rest := by
  obtain ⟨lit, hl, hr⟩ := List.exists_of_findSome?_eq_some h
  exact ⟨lit, hl, after?_some hr⟩

theorem afterAny?_cut {q : Char} {lits : List (List Char)} (hq : ∀ lit ∈ lits, q ∉ lit) (before rest : List Char) :
    afterAny? lits (before ++ q :: rest) = (afterAny? lits before).map (· ++ q :: rest) := by
  induction lits with
  | nil => rfl
  | cons lit lits ih =>
    have ih := ih fun l hl => hq l (by simp [hl])
    have hc := after?_cut (hq lit (by simp)) before rest
    simp only [afterAny?, List.findSome?_cons] at ih ⊢
    rw [hc]
    cases after? lit before with
    | none => exact ih
    | some r => rfl

/-- A search for fixed texts, with a value from what follows them that does not
depend on what stands behind the character. -/
theorem StopsAt.afterAny {α : Type} {q : Char} {lits : List (List Char)} {f : List Char → α}
    (hq : ∀ lit ∈ lits, lit ≠ [] ∧ q ∉ lit) (hf : ∀ before rest, f (before ++ q :: rest) = f before) :
    StopsAt q fun cs => (afterAny? lits cs).map f where
  nil := by
    cases h : afterAny? lits [] with
    | none => rfl
    | some r =>
      obtain ⟨lit, hl, hr⟩ := afterAny?_some h
      exact absurd (List.append_eq_nil_iff.mp hr.symm).1 (hq lit hl).1
  cut := fun before rest => by
    rw [afterAny?_cut fun lit hl => (hq lit hl).2]
    cases afterAny? lits before with
    | none => rfl
    | some r => exact congrArg some (hf r rest)

theorem afterAny?_singleton (lit cs : List Char) : afterAny? [lit] cs = after? lit cs := by
  cases h : after? lit cs <;> simp [afterAny?, h]

theorem afterWord?_cut {q : Char} {word : List Char} (hq : word.all (fun l => !sameLetter l q) = true) (before rest : List Char) :
    afterWord? word (before ++ q :: rest) = (afterWord? word before).map (· ++ q :: rest) := by
  induction word generalizing before with
  | nil => simp [afterWord?]
  | cons l word ih =>
    rw [List.all_cons, Bool.and_eq_true, Bool.not_eq_true'] at hq
    obtain ⟨hl, hword⟩ := hq
    have ih := ih hword
    cases before with
    | nil => simp [afterWord?, hl]
    | cons c before =>
      by_cases hc : sameLetter l c = true
      · simpa [afterWord?, hc] using ih before
      · simp [afterWord?, hc]

/-! ## Marks -/

/-- A mark that is in a text cut at a character when it is in one of the two
parts. -/
structure CutsAt (q : Char) (p : List Char → Bool) : Prop where
  nil : p [] = false
  append : ∀ before rest, p (before ++ q :: rest) = (p before || p rest)

theorem StopsAt.cutsAt {α : Type} {atWord : Bool} {q : Char} {m : List Char → Option α}
    (hm : StopsAt q fun cs => (m cs).map fun _ => ()) (hq : isWord q = false) :
    CutsAt q fun cs => (firstFrom atWord m false cs).isSome := by
  have he (cs : List Char) : (firstFrom atWord (fun cs => (m cs).map fun _ => ()) false cs).isSome =
      (firstFrom atWord m false cs).isSome := by
    rw [firstFrom_map, Option.isSome_map]
  constructor
  · rw [← he, firstFrom, hm.nil, ite_self, Option.isSome_none]
  · intro before rest
    rw [← he, ← he, ← he, hm.firstFrom_append, hq, Option.isSome_or]

theorem contains_cutsAt {q : Char} {lit : List Char} (hl : lit ≠ []) (hq : q ∉ lit) (hw : isWord q = false) :
    CutsAt q (contains lit) := by
  have hs : StopsAt q fun cs => (afterAny? [lit] cs).map fun _ => () := StopsAt.afterAny (by simp [hl, hq]) fun _ _ => rfl
  have he : afterAny? [lit] = after? lit := funext (afterAny?_singleton lit)
  rw [he] at hs
  exact hs.cutsAt hw

theorem CutsAt.or {q : Char} {p p' : List Char → Bool} (h : CutsAt q p) (h' : CutsAt q p') :
    CutsAt q fun cs => p cs || p' cs where
  nil := by rw [h.nil, h'.nil, Bool.or_false]
  append := fun before rest => by
    rw [h.append, h'.append]
    ac_rfl

/-! ## Quoted text -/

theorem not_isWord_of_isQuote {q : Char} (hq : isQuote q = true) : isWord q = false := by
  simp only [isQuote, Bool.or_eq_true, decide_eq_true_eq] at hq
  rcases hq with (rfl | rfl) | rfl <;> decide

/-- A text without quotes that stands between two of them in a line, or an
empty one. -/
structure Quoted (line text : List Char) : Prop where
  plain : ∀ c ∈ text, isQuote c = false
  place : text = [] ∨ ∃ before opened closed rest, isQuote opened = true ∧ isQuote closed = true ∧
    line = before ++ opened :: (text ++ closed :: rest)

theorem Quoted.empty (line : List Char) : Quoted line [] := ⟨by simp, .inl rfl⟩

theorem Quoted.mem {line text : List Char} (h : Quoted line text) {c : Char} (hc : c ∈ text) : c ∈ line := by
  rcases h.place with rfl | ⟨before, opened, closed, rest, _, _, rfl⟩
  · cases hc
  · simp [hc]

theorem Quoted.mark {line text : List Char} (h : Quoted line text) {p : List Char → Bool}
    (hp : ∀ q, isQuote q = true → CutsAt q p) (hm : p text = true) : p line = true := by
  rcases h.place with rfl | ⟨before, opened, closed, rest, ho, hc, rfl⟩
  · rw [(hp '\'' (by decide)).nil] at hm
    cases hm
  · rw [(hp opened ho).append, (hp closed hc).append, hm, Bool.true_or, Bool.or_true]

theorem quoted?_some {cs text rest : List Char} (h : quoted? cs = some (text, rest)) :
    ∃ opened closed, isQuote opened = true ∧ isQuote closed = true ∧ cs = opened :: (text ++ closed :: rest) ∧
      ∀ c ∈ text, isQuote c = false := by
  unfold quoted? at h
  split at h
  · next c cs =>
    split at h
    · next hc =>
      split at h
      · next closed after hd =>
        cases h
        have hclosed : isQuote closed = true := by
          have := List.head?_dropWhile_not (fun c => !isQuote c) cs
          simpa [hd] using this
        refine ⟨c, closed, hc, hclosed, ?_, fun c hmem => ?_⟩
        · rw [← hd, List.takeWhile_append_dropWhile]
        · simpa using List.all_eq_true.mp List.all_takeWhile c hmem
      · cases h
    · cases h
  · cases h

theorem quoted?_append {text : List Char} (h : ∀ c ∈ text, isQuote c = false) (rest : List Char) :
    quoted? ('\'' :: (text ++ '\'' :: rest)) = some (text, rest) := by
  have hall : ∀ c ∈ text, (!isQuote c) = true := fun c hc => by simp [h c hc]
  have hstop : (!isQuote '\'') = false := by decide
  have hd : (text ++ '\'' :: rest).dropWhile (fun c => !isQuote c) = '\'' :: rest := by
    rw [List.dropWhile_append_of_pos hall, List.dropWhile_cons_of_neg (by simp [hstop])]
  have ht : (text ++ '\'' :: rest).takeWhile (fun c => !isQuote c) = text := by
    rw [List.takeWhile_append_of_pos hall, List.takeWhile_cons_of_neg (by simp [hstop]), List.append_nil]
  rw [quoted?, if_pos (by decide), hd, ht]

end BrowserPilot.Text
