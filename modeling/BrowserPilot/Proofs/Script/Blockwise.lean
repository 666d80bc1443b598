import BrowserPilot.Proofs.Script.Numbers

/-!
# Scripts read block by block

What a script is compiled to can be said of its blocks, without going through
the lines one after the other: the last line with a call has the action of a
block, the last line with an assignment its retries, and a single line can
have errors ignored. What the compiler has read before does not matter.
-/

namespace BrowserPilot.Script

open Text

/-! ## What a line says -/

/-- The action of the last idiom of the table that is called in a line, read at
its first call. -/
def Says (line : List Char) (a : Action) : Prop :=
  ∃ k i before rest, idioms[k]? = some i ∧ i.IsFirstCall line before rest ∧ i.action line rest = .ok a ∧
    ∀ j ∈ idioms.drop (k + 1), ¬j.IsCalled line

theorem Idiom.IsFirstCall.unique {i : Idiom} (hi : i ∈ idioms) {line before rest before' rest' : List Char}
    (h : i.IsFirstCall line before rest) (h' : i.IsFirstCall line before' rest') : rest = rest' := by
  have ho := (opening?_eq_some_iff hi).mpr ⟨before, h⟩
  rw [(opening?_eq_some_iff hi).mpr ⟨before', h'⟩] at ho
  exact (Option.some.inj ho).symm

theorem says_iff {line before rest : List Char} {k : Nat} {i : Idiom} {a : Action} (hk : idioms[k]? = some i)
    (hc : i.IsFirstCall line before rest) (hlater : ∀ j ∈ idioms.drop (k + 1), ¬j.IsCalled line) :
    Says line a ↔ i.action line rest = .ok a := by
  constructor
  · intro h
    obtain ⟨k', i', before', rest', hk', hc', ha, hlater'⟩ := h
    have hin {m n : Nat} {j : Idiom} (hj : idioms[n]? = some j) (hlt : m < n) : j ∈ idioms.drop (m + 1) := by
      have hdrop : (idioms.drop (m + 1))[n - (m + 1)]? = some j := by
        rw [List.getElem?_drop, Nat.add_sub_cancel' hlt, hj]
      exact List.mem_of_getElem? hdrop
    -- of two different idioms the later one is called, against what the other is said to be
    rcases Nat.lt_trichotomy k k' with hlt | heq | hlt
    · exact absurd ⟨before', rest', hc'.call⟩ (hlater i' (hin hk' hlt))
    · subst heq
      rw [hk] at hk'
      cases hk'
      rwa [hc.unique (List.mem_of_getElem? hk) hc']
    · exact absurd ⟨before, rest, hc.call⟩ (hlater' i (hin hk hlt))
  · intro h
    exact ⟨k, i, before, rest, hk, hc, h, hlater⟩

theorem Says.unique {line : List Char} {a b : Action} (h : Says line a) (h' : Says line b) : a = b := by
  obtain ⟨k, i, before, rest, hk, hc, ha, hlater⟩ := h
  rw [says_iff hk hc hlater, ha] at h'
  exact Except.ok.inj h'

structure Reads (line : List Char) (r : LineReading) : Prop where
  action : ∀ a, r.action = some a → HasCall line ∧ Says line a
  noAction : r.action = none → ¬HasCall line
  retries : ∀ n, r.retries = some n → ∃ digits, AssignsRetries line digits ∧ n = readNat digits
  noRetries : r.retries = none → ∀ digits, ¬AssignsRetries line digits
  skipsErrors : r.skipsErrors = true ↔ HasWarnCall line ∧ HasSkipMark line
  isUnknownCall : r.isUnknownCall = true ↔ HasPageCall line ∧ ¬HasCall line

theorem says_of_findAction {line : List Char} {a : Action} (h : findAction line idioms none = .ok (some a)) :
    HasCall line ∧ Says line a := by
  rcases findAction_some h with ⟨hf, _⟩ | ⟨k, i, hk, hi, hlater⟩
  · cases hf
  · have hmem := List.mem_of_getElem? hk
    rw [Idiom.find?_eq, Option.map_eq_some_iff] at hi
    obtain ⟨rest, ho, ha⟩ := hi
    obtain ⟨before, hf⟩ := (opening?_eq_some_iff hmem).mp ho
    refine ⟨⟨i, hmem, before, rest, hf.call⟩, k, i, before, rest, hk, hf, ha, fun j hj => ?_⟩
    exact (opening?_eq_none_iff (List.mem_of_mem_drop hj)).mp (Idiom.find?_eq_none.mp (hlater j hj))

theorem findAction_silent {line : List Char} (h : findAction line idioms none = .ok none) : ¬HasCall line := by
  rintro ⟨i, hi, hc⟩
  exact (opening?_eq_none_iff hi).mp (Idiom.find?_eq_none.mp ((findAction_eq_none h).2 i hi)) hc

theorem readLine_reads {line : List Char} {r : LineReading} (h : readLine line = .ok r) : Reads line r := by
  obtain ⟨hf, hretries, hskips, hunknown⟩ := readLine_ok h
  have hnone (ha : r.action = none) : ¬HasCall line := findAction_silent (ha ▸ hf)
  have hcall (a : Action) (ha : r.action = some a) : HasCall line ∧ Says line a := says_of_findAction (ha ▸ hf)
  refine ⟨hcall, hnone, fun n hn => ?_, fun hn => ?_, hskips ▸ skipsErrors_iff, ?_⟩
  · rcases hretries with ⟨_, hr⟩ | ⟨digits, n', hd, hnumber, hr⟩
    · cases hn.symm.trans hr
    · cases hn.symm.trans hr
      exact ⟨digits, retryDigits?_eq_some_iff.mp hd, number_eq_ok hnumber⟩
  · rcases hretries with ⟨hd, _⟩ | ⟨_, _, _, _, hr⟩
    · exact retryDigits?_eq_none_iff.mp hd
    · cases hn.symm.trans hr
  · rw [hunknown, Bool.and_eq_true, Option.isNone_iff_eq_none, hasPageCall_iff, and_comm]
    refine and_congr_right fun _ => ⟨hnone, fun hc => ?_⟩
    cases ha : r.action with
    | none => rfl
    | some a => exact absurd (hcall a ha).1 hc

/-! ## What the lines of a block say -/

def IsLastWith (p : Line → Prop) (ls : List Line) (l : Line) : Prop :=
  ∃ before after, ls = before ++ l :: after ∧ p l ∧ ∀ l' ∈ after, ¬p l'

section
variable {p : Line → Prop} {ls : List Line} {l l' : Line}

theorem isLastWith_snoc (h : p l) : IsLastWith p (ls ++ [l]) l := ⟨ls, [], rfl, h, by simp⟩

theorem IsLastWith.snoc (h : IsLastWith p ls l) (hl : ¬p l') : IsLastWith p (ls ++ [l']) l := by
  obtain ⟨before, after, rfl, hp, hafter⟩ := h
  refine ⟨before, after ++ [l'], by simp, hp, fun x hx => ?_⟩
  rcases List.mem_append.mp hx with hx | hx
  · exact hafter x hx
  · rwa [List.mem_singleton.mp hx]

theorem IsLastWith.unique (h : IsLastWith p ls l) (h' : IsLastWith p ls l') : l = l' := by
  obtain ⟨before, after, rfl, hp, hafter⟩ := h
  obtain ⟨before', after', he, hp', hafter'⟩ := h'
  rcases List.append_eq_append_iff.mp he with ⟨more, _, hmore⟩ | ⟨more, _, hmore⟩
  · cases more with
    | nil => exact (List.cons.inj hmore).1
    | cons x more => exact absurd hp' (hafter l' (by simp [(List.cons.inj hmore).2]))
  · cases more with
    | nil => exact (List.cons.inj hmore).1.symm
    | cons x more => exact absurd hp (hafter' l (by simp [(List.cons.inj hmore).2]))

theorem forall_mem_snoc : (∀ x ∈ ls ++ [l], p x) ↔ (∀ x ∈ ls, p x) ∧ p l := by simp [or_imp, forall_and]

end

def Line.warning? (l : Line) : Option Warning :=
  if HasPageCall l.text ∧ ¬HasCall l.text then some ⟨l.number, .unknownCall l.text⟩ else none

structure Draft.Tells (default : Nat) (ls : List Line) (d : Draft) : Prop where
  action : ∀ a, d.action = some a → ∃ l, IsLastWith (fun l => HasCall l.text) ls l ∧ Says l.text a
  noAction : d.action = none → ∀ l ∈ ls, ¬HasCall l.text
  retries : (∃ l digits, IsLastWith (fun l => ∃ digits, AssignsRetries l.text digits) ls l ∧ AssignsRetries l.text digits ∧
      d.policy.retries = readNat digits) ∨
    (∀ l ∈ ls, ¬∃ digits, AssignsRetries l.text digits) ∧ d.policy.retries = default
  ignoresErrors : d.policy.ignoresErrors = true ↔ ∃ l ∈ ls, HasWarnCall l.text ∧ HasSkipMark l.text
  warnings : d.warnings = ls.filterMap Line.warning?

namespace Draft

theorem tells_empty (default : Nat) : Tells default [] ⟨none, ⟨false, default⟩, []⟩ where
  action := fun _ h => by cases h
  noAction := fun _ => by simp
  retries := .inr ⟨by simp, rfl⟩
  ignoresErrors := by simp
  warnings := rfl

theorem Tells.add {default : Nat} {ls : List Line} {d : Draft} (h : d.Tells default ls) {l : Line} {r : LineReading}
    (hr : Reads l.text r) : (d.add l.number l.text r).Tells default (ls ++ [l]) where
  action := fun a ha => by
    cases hra : r.action with
    | some b =>
      obtain rfl : b = a := by simpa [Draft.add, hra] using ha
      exact ⟨l, isLastWith_snoc (hr.action b hra).1, (hr.action b hra).2⟩
    | none =>
      obtain ⟨l', hl', hs⟩ := h.action a (by simpa [Draft.add, hra] using ha)
      exact ⟨l', hl'.snoc (hr.noAction hra), hs⟩
  noAction := fun ha => by
    cases hra : r.action with
    | some b => simp [Draft.add, hra] at ha
    | none => exact forall_mem_snoc.mpr ⟨h.noAction (by simpa [Draft.add, hra] using ha), hr.noAction hra⟩
  retries := by
    cases hn : r.retries with
    | some n =>
      obtain ⟨digits, hd, rfl⟩ := hr.retries n hn
      exact .inl ⟨l, digits, isLastWith_snoc ⟨digits, hd⟩, hd, by simp [Draft.add, hn]⟩
    | none =>
      have hno : ¬∃ digits, AssignsRetries l.text digits := not_exists.mpr (hr.noRetries hn)
      have hsame : (d.add l.number l.text r).policy.retries = d.policy.retries := by simp [Draft.add, hn]
      rw [hsame]
      rcases h.retries with ⟨l', digits, hl', hd⟩ | ⟨hall, hk⟩
      · exact .inl ⟨l', digits, hl'.snoc hno, hd⟩
      · exact .inr ⟨forall_mem_snoc.mpr ⟨hall, hno⟩, hk⟩
  ignoresErrors := by
    have hor : (d.add l.number l.text r).policy.ignoresErrors = (d.policy.ignoresErrors || r.skipsErrors) := rfl
    rw [hor, Bool.or_eq_true, h.ignoresErrors, hr.skipsErrors]
    simp [or_and_right, exists_or]
  warnings := by
    have hone : [l].filterMap Line.warning? = if r.isUnknownCall then [⟨l.number, .unknownCall l.text⟩] else [] := by
      by_cases hu : r.isUnknownCall = true
      · have := hr.isUnknownCall.mp hu
        simp [Line.warning?, hu, this]
      · have := mt hr.isUnknownCall.mpr hu
        simp only [List.filterMap_cons, Line.warning?, if_neg this, hu, List.filterMap_nil]
        rfl
    rw [List.filterMap_append, hone, ← h.warnings]
    by_cases hu : r.isUnknownCall = true
    · simp [Draft.add, hu]
    · simp [Draft.add, hu]

theorem Tells.readLines {default : Nat} {ls done : List Line} {d d' : Draft} (h : d.Tells default done)
    (hr : Script.readLines d ls = .ok d') : d'.Tells default (done ++ ls) := by
  induction ls generalizing done d with
  | nil =>
    cases hr
    rwa [List.append_nil]
  | cons l ls ih =>
    rw [Script.readLines] at hr
    cases hl : readLine l.text with
    | error e =>
      rw [hl] at hr
      cases hr
    | ok r =>
      rw [hl] at hr
      have := ih (h.add (readLine_reads hl)) hr
      rwa [List.append_assoc, List.singleton_append] at this

end Draft

/-! ## What a block says -/

structure Block.Tells (b : Block) (default ordinal : Nat) (s : Step) : Prop where
  id : s.id = stepId ordinal
  ordinal : s.ordinal = ordinal
  fallbacks : s.fallbacks = []
  action : (∃ l, IsLastWith (fun l => HasCall l.text) b.lines l ∧ Says l.text s.action) ∨
    (∀ l ∈ b.lines, ¬HasCall l.text) ∧ s.action = .navigate ""
  retries : (∃ l digits, IsLastWith (fun l => ∃ digits, AssignsRetries l.text digits) b.lines l ∧
      AssignsRetries l.text digits ∧ s.policy.retries = readNat digits) ∨
    (∀ l ∈ b.lines, ¬∃ digits, AssignsRetries l.text digits) ∧ s.policy.retries = default
  ignoresErrors : s.policy.ignoresErrors = true ↔ ∃ l ∈ b.lines, HasWarnCall l.text ∧ HasSkipMark l.text

theorem Block.Tells.unique {b : Block} {default ordinal : Nat} {s s' : Step} (h : b.Tells default ordinal s)
    (h' : b.Tells default ordinal s') : s = s' := by
  have hnone {p : Line → Prop} {l : Line} (hl : IsLastWith p b.lines l) (hno : ∀ l ∈ b.lines, ¬p l) : False := by
    obtain ⟨before, after, hlines, hp, _⟩ := hl
    exact hno l (by simp [hlines]) hp
  have haction : s.action = s'.action := by
    rcases h.action with ⟨l, hl, hs⟩ | ⟨hno, hs⟩
    · rcases h'.action with ⟨l', hl', hs'⟩ | ⟨hno, _⟩
      · rw [hl'.unique hl] at hs'
        exact hs.unique hs'
      · exact (hnone hl hno).elim
    · rcases h'.action with ⟨l', hl', _⟩ | ⟨_, hs'⟩
      · exact (hnone hl' hno).elim
      · rw [hs, hs']
  have hretries : s.policy.retries = s'.policy.retries := by
    rcases h.retries with ⟨l, digits, hl, hd, hs⟩ | ⟨hno, hs⟩
    · rcases h'.retries with ⟨l', digits', hl', hd', hs'⟩ | ⟨hno, _⟩
      · rw [hl'.unique hl, ← retryDigits?_eq_some_iff] at hd'
        rw [← retryDigits?_eq_some_iff, hd'] at hd
        rw [hs, hs', Option.some.inj hd]
      · exact (hnone hl hno).elim
    · rcases h'.retries with ⟨l', _, hl', _⟩ | ⟨_, hs'⟩
      · exact (hnone hl' hno).elim
      · rw [hs, hs']
  have hignores : s.policy.ignoresErrors = s'.policy.ignoresErrors := by
    rw [Bool.eq_iff_iff, h.ignoresErrors, h'.ignoresErrors]
  have hid := h.id.trans h'.id.symm
  have hordinal := h.ordinal.trans h'.ordinal.symm
  have hfallbacks := h.fallbacks.trans h'.fallbacks.symm
  cases s with
  | mk id ordinal action fallbacks policy =>
    cases s' with
    | mk id' ordinal' action' fallbacks' policy' =>
      cases policy
      cases policy'
      simp_all

/-- The warnings of a block: one for every line that is like a call and is none
of the idioms, and one if no line has a call. -/
def Block.warnings (ordinal : Nat) (b : Block) : List Warning :=
  b.lines.filterMap Line.warning? ++ if ∃ l ∈ b.lines, HasCall l.text then [] else [⟨b.marker.number, .noAction ordinal⟩]

theorem Block.compile_tells {default ordinal : Nat} {b : Block} {s : Step} {warnings : List Warning}
    (h : b.compile default ordinal = .ok (s, warnings)) :
    b.Tells default ordinal s ∧ warnings = b.warnings ordinal := by
  rw [Block.compile_eq] at h
  cases hd : readLines ⟨none, ⟨false, default⟩, []⟩ b.lines with
  | error e =>
    rw [hd] at h
    cases h
  | ok d =>
    rw [hd] at h
    cases h
    have ht := (Draft.tells_empty default).readLines hd
    rw [List.nil_append] at ht
    refine ⟨⟨rfl, rfl, rfl, ?_, ht.retries, ht.ignoresErrors⟩, ?_⟩
    · cases ha : d.action with
      | some a =>
        obtain ⟨l, hl, hs⟩ := ht.action a ha
        exact .inl ⟨l, hl, by simpa [Draft.step, ha] using hs⟩
      | none => exact .inr ⟨ht.noAction ha, by simp [Draft.step, ha]⟩
    · unfold Draft.allWarnings Block.warnings
      rw [ht.warnings]
      cases ha : d.action with
      | some a =>
        obtain ⟨l, ⟨before, after, hls, hc, _⟩, _⟩ := ht.action a ha
        have hmem : ∃ l ∈ b.lines, HasCall l.text := ⟨l, by simp [hls], hc⟩
        rw [if_pos hmem, List.append_nil]
        rfl
      | none =>
        have hno : ¬∃ l ∈ b.lines, HasCall l.text := by
          intro h
          obtain ⟨l, hl, hc⟩ := h
          exact ht.noAction ha l hl hc
        rw [if_neg hno]
        rfl

theorem compileBlocks_tells {default k : Nat} {bs : List Block} {r : List Step × List Warning}
    (h : compileBlocks default k bs = .ok r) :
    (∀ (i : Nat) (b : Block) (s : Step), bs[i]? = some b → r.1[i]? = some s → b.Tells default (k + i) s) ∧
      r.2 = (bs.zipIdx k).flatMap fun b => b.1.warnings b.2 := by
  induction bs generalizing k r with
  | nil =>
    cases h
    exact ⟨fun i b s hb => by simp at hb, rfl⟩
  | cons b bs ih =>
    obtain ⟨step, warnings, more, hb, hmore, rfl⟩ := compileBlocks_cons_ok h
    obtain ⟨htells, hwarn⟩ := Block.compile_tells hb
    obtain ⟨hrest, hwarns⟩ := ih hmore
    constructor
    · intro i b' s hb' hs
      cases i with
      | zero =>
        cases hb'
        cases hs
        exact htells
      | succ i =>
        have := hrest i b' s hb' hs
        rwa [Nat.add_right_comm, Nat.add_assoc] at this
    · rw [List.zipIdx_cons, List.flatMap_cons, ← hwarns, ← hwarn]

/-! ## A compiler used again -/

namespace Compiler

theorem create_retries {default : Int} {c : Compiler} (h : create default = .ok c) : 0 ≤ default ∧ c.retries = default.toNat := by
  unfold create retryDefault at h
  split at h
  · cases h
  · cases h
    exact ⟨by omega, rfl⟩

/-- **Compiling block by block.** What a compiler makes of a script does not
depend on the scripts it was used for before, whether they failed or not. If it
comes to steps, the script is cut into blocks, and the steps and warnings are
those that the blocks say, in order. -/
theorem compile_blockwise {default : Int} {c : Compiler} (h : create default = .ok c) :
    (∀ history script, (c.afterAll history).compile script = c.compile script) ∧
      ∀ {script : String} {steps : List Step} {used : Compiler}, c.compile script = (.ok steps, used) →
        Script.compile default script = .ok ⟨steps, used.warnings⟩ ∧
          ∃ (free : List Line) (blocks : List Block), numberedFrom 1 (lines script.toList) = free ++ blocks.flatMap Block.lines ∧
            (∀ l ∈ free, isMarker l.text = false) ∧ (∀ b ∈ blocks, b.IsWhole) ∧ steps.length = blocks.length ∧
            (∀ (k : Nat) (b : Block), blocks[k]? = some b → ∀ s, steps[k]? = some s ↔ b.Tells default.toNat (k + 1) s) ∧
            used.warnings = (blocks.zipIdx 1).flatMap fun b => b.1.warnings b.2 := by
  obtain ⟨hd, hretries⟩ := create_retries h
  refine ⟨fun history script => compile_congr (afterAll_retries c history) script, ?_⟩
  intro script steps used hc
  have hwith : compileWith c.retries script = .ok ⟨steps, used.warnings⟩ := compile_ok_iff.mpr (by rw [hc]; exact ⟨rfl, rfl⟩)
  rw [hretries] at hwith
  have hblocks := compileWith_ok hwith
  obtain ⟨htells, hwarnings⟩ := compileBlocks_tells hblocks
  refine ⟨by rw [compile_eq_compileWith hd, hwith], (splitBlocks (numberedFrom 1 (lines script.toList))).1, blocksOf script,
    ?_, ?_, splitBlocks_isWhole _, compileBlocks_length hblocks, ?_, hwarnings⟩
  · rw [flatMap_blocksOf, splitBlocks_fst, linesInBlocks, List.takeWhile_append_dropWhile]
  · intro l hl
    rw [splitBlocks_fst] at hl
    simpa using List.all_eq_true.mp List.all_takeWhile l hl
  · intro k b hb s
    have hlt : k < steps.length := by
      rw [compileBlocks_length hblocks]
      exact (List.getElem?_eq_some_iff.mp hb).1
    have hk := htells k b steps[k] hb (List.getElem?_eq_getElem hlt)
    rw [Nat.add_comm, List.getElem?_eq_getElem hlt, Option.some.injEq]
    constructor
    · rintro rfl
      exact hk
    · exact hk.unique

private def unfinished : String := "# step 1\npage.goto('/'); page.click('#a')\npage.hover('#b')\n// Step 2"

/-- After a script that it warns about and one that fails, a compiler reads a
third as if it were new. -/
theorem compile_blockwise_usedAgain :
    let steps : List Step := [⟨stepId 1, 1, .click "#a", [], ⟨false, 3⟩⟩, ⟨stepId 2, 2, .navigate "", [], ⟨false, 3⟩⟩]
    let used : Compiler := ⟨3, [⟨3, .unknownCall "page.hover('#b')".toList⟩, ⟨4, .noAction 2⟩]⟩
    create 3 = .ok ⟨3, []⟩ ∧ compile ⟨3, []⟩ unfinished = (.ok steps, used) ∧
      (afterAll ⟨3, []⟩ ["// step 1\npage.reload()", paymentScript (10 ^ digitLimit)]).compile unfinished = (.ok steps, used) ∧
      ∃ (free : List Line) (blocks : List Block),
        numberedFrom 1 (lines unfinished.toList) = free ++ blocks.flatMap Block.lines ∧ blocks.length = 2 ∧
          used.warnings = (blocks.zipIdx 1).flatMap fun b => b.1.warnings b.2 := by
  intro steps used
  have h : create 3 = .ok ⟨3, []⟩ := rfl
  have hc : compile ⟨3, []⟩ unfinished = (.ok steps, used) := by rfl
  obtain ⟨hsame, hblocks⟩ := compile_blockwise h
  obtain ⟨_, free, blocks, hlines, _, _, hlength, _, hwarnings⟩ := hblocks hc
  exact ⟨h, hc, (hsame _ unfinished).trans hc, free, blocks, hlines, hlength.symm, hwarnings⟩

end Compiler

end BrowserPilot.Script
