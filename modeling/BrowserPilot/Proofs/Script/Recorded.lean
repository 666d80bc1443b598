import BrowserPilot.Proofs.Script.Compiled
import BrowserPilot.Proofs.Text.Lines
import BrowserPilot.Proofs.Text.Search
import BrowserPilot.Script.Render

/-!
# What a script can say

The texts of a compiled action stand between quotes in a line of the script,
and no call of an idiom further down the table is in them: it would have been
the one that counts. Nor is there a mark in them that the line does not have.
-/

namespace BrowserPilot

def Action.place : Action → Nat
  | navigate _ => 0
  | click _ => 1
  | type .. => 2
  | wait .time .. => 3
  | wait .selector .. => 4
  | extract _ => 5
  | screenshot _ => 6
  | scroll .. => 7

namespace Script

open Text

/-! ## Calls and marks of a line -/

def Idiom.opening? (i : Idiom) (line : List Char) : Option (List Char) :=
  firstFrom i.atWord (afterAny? (i.calls.map String.toList)) false line

theorem Idiom.find?_eq (i : Idiom) (line : List Char) : i.find? line = (i.opening? line).map (i.action line) := rfl

theorem Idiom.find?_eq_none {i : Idiom} {line : List Char} : i.find? line = none ↔ i.opening? line = none := by
  rw [find?_eq, Option.map_eq_none_iff]

def laterCalls (a : Action) : List Idiom := idioms.drop (a.place + 1)

def hasWarning (line : List Char) : Bool :=
  ["console.warn(", "logger.warning(", "logging.warning("].any fun call => contains call.toList line

def skipAt? (cs : List Char) : Option (List Char) :=
  (afterWord? "skip".toList cs).orElse fun _ => afterWord? "ignor".toList cs

def hasSkip (line : List Char) : Bool := (firstAt skipAt? line).isSome || contains "تخطي الخطأ".toList line

theorem skipsErrors_eq (line : List Char) : skipsErrors line = (hasWarning line && hasSkip line) := rfl

theorem quote_cases {p : Char → Prop} (h : p '\'' ∧ p '"' ∧ p '`') (q : Char) (hq : isQuote q = true) : p q := by
  simp only [isQuote, Bool.or_eq_true, decide_eq_true_eq] at hq
  rcases hq with (rfl | rfl) | rfl
  · exact h.1
  · exact h.2.1
  · exact h.2.2

theorem not_isQuote_of_isDigit {c : Char} (h : c.isDigit = true) : isQuote c = false := by
  cases hq : isQuote c with
  | false => rfl
  | true =>
    have hn := quote_cases (p := fun q => q.isDigit = false) (by decide) c hq
    rw [hn] at h
    cases h

theorem hasWarning_cutsAt (q : Char) (hq : isQuote q = true) : CutsAt q hasWarning := by
  have hw := not_isWord_of_isQuote hq
  have hall : ∀ lit ∈ ["console.warn(".toList, "logger.warning(".toList, "logging.warning(".toList], CutsAt q (contains lit) := by
    intro lit hl
    have hne : ∀ lit ∈ ["console.warn(".toList, "logger.warning(".toList, "logging.warning(".toList], lit ≠ [] := by decide
    have hno := quote_cases (p := fun q => ∀ lit ∈ ["console.warn(".toList, "logger.warning(".toList,
      "logging.warning(".toList], q ∉ lit) (by decide) q hq
    exact contains_cutsAt (hne lit hl) (hno lit hl) hw
  exact ((hall _ (by simp)).or ((hall _ (by simp)).or ((hall _ (by simp)).or ⟨rfl, fun _ _ => rfl⟩)))

theorem skipAt?_stopsAt (q : Char) (hq : isQuote q = true) : StopsAt q fun cs => (skipAt? cs).map fun _ => () where
  nil := rfl
  cut := fun before rest => by
    have hs := quote_cases (p := fun q => "skip".toList.all (fun l => !sameLetter l q) = true) (by decide) q hq
    have hi := quote_cases (p := fun q => "ignor".toList.all (fun l => !sameLetter l q) = true) (by decide) q hq
    simp only [skipAt?, afterWord?_cut hs, afterWord?_cut hi]
    cases afterWord? "skip".toList before <;> cases afterWord? "ignor".toList before <;> rfl

theorem hasSkip_cutsAt (q : Char) (hq : isQuote q = true) : CutsAt q hasSkip := by
  have hw := not_isWord_of_isQuote hq
  have hno := quote_cases (p := fun q => q ∉ "تخطي الخطأ".toList) (by decide) q hq
  exact ((skipAt?_stopsAt q hq).cutsAt hw).or (contains_cutsAt (by decide) hno hw)

theorem idioms_calls : ∀ i ∈ idioms, ∀ lit ∈ i.calls.map String.toList,
    lit ≠ [] ∧ '\'' ∉ lit ∧ '"' ∉ lit ∧ '`' ∉ lit := by
  decide

theorem opening?_stopsAt {α : Type} {i : Idiom} (hi : i ∈ idioms) {q : Char} (hq : isQuote q = true) {f : List Char → α}
    (hf : ∀ before rest, f (before ++ q :: rest) = f before) :
    StopsAt q fun cs => (afterAny? (i.calls.map String.toList) cs).map f := by
  refine StopsAt.afterAny (fun lit hl => ⟨(idioms_calls i hi lit hl).1, ?_⟩) hf
  exact quote_cases (p := fun q => q ∉ lit) (idioms_calls i hi lit hl).2 q hq

theorem opening?_cutsAt {i : Idiom} (hi : i ∈ idioms) (q : Char) (hq : isQuote q = true) :
    CutsAt q fun cs => (i.opening? cs).isSome :=
  (opening?_stopsAt hi hq (f := fun _ => ()) fun _ _ => rfl).cutsAt (not_isWord_of_isQuote hq)

/-! ## Literals -/

theorem skipBlanks_suffix (cs : List Char) : skipBlanks cs <:+ cs := List.dropWhile_suffix isBlank

theorem quoted_of_suffix {line cs text rest : List Char} (hs : cs <:+ line) (h : quoted? cs = some (text, rest)) :
    Quoted line text ∧ rest <:+ line := by
  obtain ⟨opened, closed, ho, hc, rfl, hplain⟩ := quoted?_some h
  obtain ⟨before, rfl⟩ := hs
  refine ⟨⟨hplain, .inr ⟨before, opened, closed, rest, ho, hc, rfl⟩⟩, ?_⟩
  exact ⟨before ++ opened :: (text ++ [closed]), by simp⟩

theorem firstLiteral_quoted {line cs : List Char} (hs : cs <:+ line) :
    Quoted line (firstLiteral cs).1 ∧ (firstLiteral cs).2 <:+ line := by
  have hb : skipBlanks cs <:+ line := (skipBlanks_suffix cs).trans hs
  unfold firstLiteral
  cases h : quoted? (skipBlanks cs) with
  | none => exact ⟨Quoted.empty line, hb⟩
  | some r => exact quoted_of_suffix hb h

theorem nextLiteral_quoted {line cs : List Char} (hs : cs <:+ line) : Quoted line (nextLiteral cs) := by
  unfold nextLiteral
  split
  · next rest hcs =>
    have hr : skipBlanks rest <:+ line := by
      have hc : skipBlanks cs <:+ line := (skipBlanks_suffix cs).trans hs
      rw [hcs] at hc
      exact (skipBlanks_suffix rest).trans ((List.suffix_cons _ rest).trans hc)
    cases h : quoted? (skipBlanks rest) with
    | none => exact Quoted.empty line
    | some r => exact (quoted_of_suffix hr h).1
  · exact Quoted.empty line

theorem number_lt {digits : List Char} {n : Nat} (h : number digits = .ok n) : n < 10 ^ digitLimit := by
  unfold number at h
  split at h
  · cases h
  · next hl =>
    cases h
    exact Nat.lt_of_lt_of_le (readNat_lt digits) (Nat.pow_le_pow_right (by decide) (by omega))

/-! ## The action of a line -/

/-- The action of a line is that of the last idiom that occurs. -/
theorem findAction_some {line : List Char} {l : List Idiom} {found : Option Action} {a : Action}
    (h : findAction line l found = .ok (some a)) :
    (found = some a ∧ ∀ i ∈ l, i.find? line = none) ∨
      ∃ k i, l[k]? = some i ∧ i.find? line = some (.ok a) ∧ ∀ j ∈ l.drop (k + 1), j.find? line = none := by
  induction l generalizing found with
  | nil =>
    cases h
    exact .inl ⟨rfl, by simp⟩
  | cons i rest ih =>
    unfold findAction at h
    cases hi : i.find? line with
    | none =>
      rw [hi] at h
      rcases ih h with ⟨hf, hn⟩ | ⟨k, j, hk, hj, hn⟩
      · exact .inl ⟨hf, by simpa [hi] using hn⟩
      · exact .inr ⟨k + 1, j, hk, hj, hn⟩
    | some r =>
      rw [hi] at h
      cases r with
      | error e => cases h
      | ok b =>
        rcases ih h with ⟨hf, hn⟩ | ⟨k, j, hk, hj, hn⟩
        · cases hf
          exact .inr ⟨0, i, rfl, hi, hn⟩
        · exact .inr ⟨k + 1, j, hk, hj, hn⟩

/-- The parameters that have a spelling; the others have their default. -/
def IsWritten : Action → Prop
  | .wait .time ms selector => ms < 10 ^ digitLimit ∧ selector = ""
  | .wait .selector ms _ => ms = 0
  | .scroll target direction => (∀ n, target = .pixels n → n < 10 ^ digitLimit) ∧ direction = .down
  | _ => True

/-- An action that a line was read as. -/
structure ReadFrom (line : List Char) (a : Action) : Prop where
  written : IsWritten a
  quoted : ∀ x ∈ a.texts, Quoted line x.toList
  last : ∀ j ∈ laterCalls a, j.opening? line = none

theorem opening?_suffix {i : Idiom} {line cs : List Char} (h : i.opening? line = some cs) : cs <:+ line := by
  obtain ⟨s, hs, hr⟩ := firstFrom_place h
  obtain ⟨lit, _, rfl⟩ := afterAny?_some hr
  exact (List.suffix_append lit cs).trans hs

theorem literal_quoted {line cs : List Char} (hs : cs <:+ line) : Quoted line (literal cs).toList := by
  rw [literal, String.toList_ofList]
  exact (firstLiteral_quoted hs).1

theorem scrollTarget_lt {cs : List Char} {target : ScrollTarget} (h : scrollTarget cs = .ok target) :
    ∀ n, target = .pixels n → n < 10 ^ digitLimit := by
  rintro n rfl
  unfold scrollTarget at h
  split at h
  · next rest _ =>
    dsimp only at h
    split at h
    · cases h
    · cases hn : number (leadingDigits (skipBlanks rest)).1 with
      | error e =>
        rw [hn] at h
        cases h
      | ok v =>
        rw [hn] at h
        cases h
        exact number_lt hn
  · cases h

theorem idiom_action {k : Nat} {i : Idiom} {line cs : List Char} {a : Action} (hk : idioms[k]? = some i) (hs : cs <:+ line)
    (h : i.action line cs = .ok a) : a.place = k ∧ IsWritten a ∧ ∀ x ∈ a.texts, Quoted line x.toList := by
  -- one case for each row of the table; only the rows that read a number can fail
  match k, hk with
  | 0, hk | 1, hk =>
    cases hk
    cases h
    exact ⟨rfl, trivial, by simpa [Action.texts] using literal_quoted hs⟩
  | 2, hk =>
    cases hk
    cases h
    refine ⟨rfl, trivial, fun x hx => ?_⟩
    obtain ⟨hl, hr⟩ := firstLiteral_quoted hs
    rcases List.mem_cons.mp hx with rfl | hx
    · rw [String.toList_ofList]
      exact hl
    · rw [List.mem_singleton.mp hx, String.toList_ofList]
      exact nextLiteral_quoted hr
  | 3, hk =>
    cases hk
    dsimp only at h
    cases hn : number (leadingDigits (skipBlanks cs)).1 with
    | error e =>
      rw [hn] at h
      cases h
    | ok ms =>
      rw [hn] at h
      cases h
      exact ⟨rfl, ⟨number_lt hn, rfl⟩, by simpa [Action.texts] using Quoted.empty line⟩
  | 4, hk =>
    cases hk
    cases h
    exact ⟨rfl, rfl, by simpa [Action.texts] using literal_quoted hs⟩
  | 5, hk =>
    cases hk
    cases h
    exact ⟨rfl, trivial, by simpa [Action.texts] using literal_quoted hs⟩
  | 6, hk =>
    cases hk
    cases h
    exact ⟨rfl, trivial, by simp [Action.texts]⟩
  | 7, hk =>
    cases hk
    dsimp only at h
    cases ht : scrollTarget cs with
    | error e =>
      rw [ht] at h
      cases h
    | ok target =>
      rw [ht] at h
      cases h
      exact ⟨rfl, ⟨scrollTarget_lt ht, rfl⟩, by simp [Action.texts]⟩
  | k + 8, hk => cases hk

theorem findAction_readFrom {line : List Char} {a : Action} (h : findAction line idioms none = .ok (some a)) :
    ReadFrom line a := by
  rcases findAction_some h with ⟨hf, _⟩ | ⟨k, i, hk, hi, hn⟩
  · cases hf
  · rw [Idiom.find?_eq, Option.map_eq_some_iff] at hi
    obtain ⟨cs, ho, ha⟩ := hi
    obtain ⟨rfl, hw, hq⟩ := idiom_action hk (opening?_suffix ho) ha
    exact ⟨hw, hq, fun j hj => Idiom.find?_eq_none.mp (hn j hj)⟩

/-! ## Steps -/

structure Recorded (a : Action) (p : ErrorPolicy) : Prop where
  written : IsWritten a
  plain : ∀ x ∈ a.texts, ∀ c ∈ x.toList, isQuote c = false ∧ isBreak c = false
  last : ∀ x ∈ a.texts, ∀ j ∈ laterCalls a, j.opening? x.toList = none
  marked : (∃ x ∈ a.texts, hasWarning x.toList = true) → (∃ x ∈ a.texts, hasSkip x.toList = true) → p.ignoresErrors = true

theorem Recorded.default (p : ErrorPolicy) : Recorded (.navigate "") p where
  written := trivial
  plain := by simp [Action.texts]
  last := by
    simp only [Action.texts, List.mem_singleton, forall_eq]
    decide
  marked := by
    rintro ⟨x, hx, hw⟩ _
    rw [List.mem_singleton.mp hx] at hw
    cases hw

theorem Recorded.mono {a : Action} {p p' : ErrorPolicy} (h : Recorded a p) (hp : p.ignoresErrors = true → p'.ignoresErrors = true) :
    Recorded a p' :=
  { h with marked := fun hw hs => hp (h.marked hw hs) }

theorem ReadFrom.recorded {line : List Char} {a : Action} {p : ErrorPolicy} (h : ReadFrom line a)
    (hb : ∀ c ∈ line, isBreak c = false) (hp : skipsErrors line = true → p.ignoresErrors = true) : Recorded a p where
  written := h.written
  plain := fun x hx c hc => ⟨(h.quoted x hx).plain c hc, hb c ((h.quoted x hx).mem hc)⟩
  last := fun x hx j hj => by
    -- a later call inside a text would be one in the line
    have hn : (j.opening? line).isSome = false := by rw [h.last j hj, Option.isSome_none]
    cases ho : j.opening? x.toList with
    | none => rfl
    | some cs =>
      have := (h.quoted x hx).mark (opening?_cutsAt (List.mem_of_mem_drop hj)) (by rw [ho, Option.isSome_some])
      rw [hn] at this
      cases this
  marked := by
    rintro ⟨x, hx, hw⟩ ⟨y, hy, hs⟩
    apply hp
    rw [skipsErrors_eq, (h.quoted x hx).mark hasWarning_cutsAt hw, (h.quoted y hy).mark hasSkip_cutsAt hs, Bool.and_self]

theorem readLine_ok {line : List Char} {r : LineReading} (h : readLine line = .ok r) :
    findAction line idioms none = .ok r.action ∧
      (retryDigits? line = none ∧ r.retries = none ∨
        ∃ digits n, retryDigits? line = some digits ∧ number digits = .ok n ∧ r.retries = some n) ∧
      r.skipsErrors = skipsErrors line ∧ r.isUnknownCall = (r.action.isNone && hasPageCall line) := by
  unfold readLine at h
  cases ha : findAction line idioms none with
  | error e =>
    rw [ha] at h
    cases h
  | ok action =>
    rw [ha] at h
    cases hd : retryDigits? line with
    | none =>
      rw [hd] at h
      cases h
      exact ⟨rfl, .inl ⟨rfl, rfl⟩, rfl, rfl⟩
    | some digits =>
      rw [hd] at h
      cases hn : number digits with
      | error e =>
        simp only [hn] at h
        cases h
      | ok n =>
        simp only [hn] at h
        cases h
        exact ⟨rfl, .inr ⟨digits, n, rfl, hn, rfl⟩, rfl, rfl⟩

def Draft.IsRecorded (d : Draft) : Prop := ∀ a, d.action = some a → Recorded a d.policy

theorem Draft.add_isRecorded {d : Draft} {n : Nat} {line : List Char} {r : LineReading} (hd : d.IsRecorded)
    (hb : ∀ c ∈ line, isBreak c = false) (hr : readLine line = .ok r) : (d.add n line r).IsRecorded := by
  obtain ⟨ha, _, hs, _⟩ := readLine_ok hr
  intro a h
  cases hra : r.action with
  | some b =>
    rw [Draft.add, hra] at h
    cases h
    rw [hra] at ha
    refine (findAction_readFrom ha).recorded hb fun hskip => ?_
    simp [Draft.add, hs, hskip]
  | none =>
    rw [Draft.add, hra] at h
    refine (hd a h).mono fun hi => ?_
    simp [Draft.add, hi]

theorem readLines_isRecorded {d d' : Draft} {ls : List Line} (hd : d.IsRecorded)
    (hb : ∀ l ∈ ls, ∀ c ∈ l.text, isBreak c = false) (h : readLines d ls = .ok d') : d'.IsRecorded := by
  induction ls generalizing d with
  | nil =>
    cases h
    exact hd
  | cons l ls ih =>
    unfold readLines at h
    cases hr : readLine l.text with
    | error e =>
      rw [hr] at h
      cases h
    | ok r =>
      rw [hr] at h
      exact ih (Draft.add_isRecorded hd (hb l (by simp)) hr) (fun l' hl' => hb l' (by simp [hl'])) h

theorem splitBlocks_lines {ls : List Line} {b : Block} (hb : b ∈ (splitBlocks ls).2) : ∀ l ∈ b.marker :: b.body, l ∈ ls := by
  have hfree : ∀ ls : List Line, (∀ l ∈ (splitBlocks ls).1, l ∈ ls) ∧
      ∀ b ∈ (splitBlocks ls).2, ∀ l ∈ b.marker :: b.body, l ∈ ls := by
    intro ls
    induction ls with
    | nil => simp [splitBlocks]
    | cons l ls ih =>
      obtain ⟨hf, hbs⟩ := ih
      unfold splitBlocks
      dsimp only
      split
      · refine ⟨by simp, fun b hb x hx => ?_⟩
        rcases List.mem_cons.mp hb with rfl | hb
        · rcases List.mem_cons.mp hx with rfl | hx
          · simp
          · exact List.mem_cons_of_mem _ (hf x hx)
        · exact List.mem_cons_of_mem _ (hbs b hb x hx)
      · refine ⟨fun x hx => ?_, fun b hb x hx => List.mem_cons_of_mem _ (hbs b hb x hx)⟩
        rcases List.mem_cons.mp hx with rfl | hx
        · simp
        · exact List.mem_cons_of_mem _ (hf x hx)
  exact (hfree ls).2 b hb

theorem numberedFrom_noBreak {k : Nat} {ls : List (List Char)} (h : ∀ l ∈ ls, ∀ c ∈ l, isBreak c = false) :
    ∀ l ∈ numberedFrom k ls, ∀ c ∈ l.text, isBreak c = false := by
  induction ls generalizing k with
  | nil => simp [numberedFrom]
  | cons l ls ih =>
    intro x hx c hc
    rcases List.mem_cons.mp hx with rfl | hx
    · exact h l (by simp) c (mem_of_mem_trim hc)
    · exact ih (fun l' hl' => h l' (by simp [hl'])) x hx c hc

theorem compileBlocks_recorded {retries k : Nat} {bs : List Block} {r : List Step × List Warning}
    (hb : ∀ b ∈ bs, ∀ l ∈ b.marker :: b.body, ∀ c ∈ l.text, isBreak c = false) (h : compileBlocks retries k bs = .ok r) :
    ∀ s ∈ r.1, Recorded s.action s.policy := by
  induction bs generalizing k r with
  | nil =>
    cases h
    simp
  | cons b bs ih =>
    obtain ⟨step, warnings, more, hc, hr, rfl⟩ := compileBlocks_cons_ok h
    obtain ⟨d, hd, hs, _⟩ := Block.compile_ok hc
    have hrec : d.IsRecorded := readLines_isRecorded (by simp [Draft.IsRecorded]) (hb b (by simp)) hd
    intro s hmem
    rcases List.mem_cons.mp hmem with rfl | hmem
    · rw [show s = _ from hs]
      cases ha : d.action with
      | none => exact Recorded.default d.policy
      | some a => exact hrec a ha
    · exact ih (fun b' hb' => hb b' (by simp [hb'])) hr s hmem

/-- Every compiled step is one that a script can say. -/
theorem compileWith_recorded {retries : Nat} {script : String} {c : Compiled} (h : compileWith retries script = .ok c) :
    ∀ s ∈ c.steps, Recorded s.action s.policy := by
  unfold compileWith at h
  split at h
  · next steps warnings hb =>
    cases h
    refine compileBlocks_recorded (fun b hmem l hl => ?_) hb
    exact numberedFrom_noBreak (fun _ hl => lines_noBreak hl) l (splitBlocks_lines hmem l hl)
  · cases h

end Script

end BrowserPilot
