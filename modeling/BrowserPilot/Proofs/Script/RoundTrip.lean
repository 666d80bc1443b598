import BrowserPilot.Proofs.Script.Rendered
import Mathlib.Data.List.Forall2

/-!
# Rendered steps compiled again

A step that came out of a script is given back by its own script, unless a
number in it is too long.
-/

namespace BrowserPilot.Script

open Text

/-! ## Steps that can be read again -/

/-- The numbers that the texts of an action bring into the line of its call are
not too long. -/
def HidesShort (a : Action) : Prop :=
  ∀ digits, hiddenTime a = some digits ∨ hiddenRetries a = some digits → digits.length ≤ digitLimit

/-- No number in the script of a step is too long. -/
def IsRenderable (s : Step) : Prop := s.policy.retries < 10 ^ digitLimit ∧ HidesShort s.action

/-- The retries that the script of a step sets at last: a number hidden in a
text comes after the step's own. -/
def writtenRetries (s : Step) : Nat := ((hiddenRetries s.action).map readNat).getD s.policy.retries

theorem writtenRetries_eq {s : Step} (h : ∀ x ∈ s.action.texts, retryDigits? x.toList = none) :
    writtenRetries s = s.policy.retries := by
  have hn : hiddenRetries s.action = none := List.findSome?_eq_none_iff.mpr h
  rw [writtenRetries, hn, Option.map_none, Option.getD_none]

/-! ## The line of the call -/

theorem readLine_callOf {a : Action} {p : ErrorPolicy} (h : Recorded a p) (hs : HidesShort a) :
    readLine (callOf a).toList = .ok ⟨some a, (hiddenRetries a).map readNat, skipsErrors (callOf a).toList, false⟩ := by
  rw [readLine_eq (findAction_callOf h fun digits hd => hs digits (.inl hd)), retryDigits?_callOf h.written]
  cases hr : hiddenRetries a with
  | none => rfl
  | some digits => simp [number_short (hs digits (.inr hr)), Except.map]

theorem HidesShort.exists_long {a : Action} (h : ¬HidesShort a) :
    ∃ digits, (hiddenTime a = some digits ∨ hiddenRetries a = some digits) ∧ digitLimit < digits.length := by
  rw [HidesShort, Classical.not_forall] at h
  obtain ⟨digits, hd⟩ := h
  rw [Classical.not_imp] at hd
  exact ⟨digits, hd.1, Nat.lt_of_not_le hd.2⟩

theorem readLine_callOf_error {a : Action} {p : ErrorPolicy} (h : Recorded a p) (hs : ¬HidesShort a) :
    ∃ n, digitLimit < n ∧ readLine (callOf a).toList = .error ⟨n⟩ := by
  by_cases ht : ∀ digits, hiddenTime a = some digits → digits.length ≤ digitLimit
  · obtain ⟨digits, hd, hl⟩ := HidesShort.exists_long hs
    rcases hd with hd | hd
    · exact absurd (ht digits hd) (by omega)
    · -- the retries are read last, so the action of the line has to be found before they fail it
      refine ⟨digits.length, hl, ?_⟩
      rw [readLine_eq (findAction_callOf h ht), retryDigits?_callOf h.written, hd]
      simp [number_long hl, Except.map]
  · rw [Classical.not_forall] at ht
    obtain ⟨digits, hd⟩ := ht
    rw [Classical.not_imp] at hd
    refine ⟨digits.length, Nat.lt_of_not_le hd.2, ?_⟩
    unfold readLine
    rw [findAction_callOf_error h hd.1 (Nat.lt_of_not_le hd.2)]
    rfl

theorem number_toDigits_long {n : Nat} (h : 10 ^ digitLimit ≤ n) : digitLimit < (Nat.toDigits 10 n).length := by
  rcases Nat.lt_or_ge digitLimit (Nat.toDigits 10 n).length with hl | hl
  · exact hl
  · have := (Nat.length_toDigits_le_iff (by decide) (by decide)).mp hl
    omega

/-! ## The steps -/

/-- A step and the same step compiled from its script. -/
structure Reread (s s' : Step) : Prop where
  action : s'.action = s.action
  ignoresErrors : s'.policy.ignoresErrors = s.policy.ignoresErrors
  retries : s'.policy.retries = writtenRetries s

theorem Recorded.onOneLine {s : Step} (h : Recorded s.action s.policy) : OnOneLine s :=
  fun x hx c hc => (h.plain x hx c hc).2

theorem reread_ok {s : Step} (hr : Recorded s.action s.policy) (hs : IsRenderable s) (index : Nat) :
    ∃ s', reread index s = .ok s' ∧ Reread s s' := by
  -- a text can say that errors are ignored only where the step says so as well
  have hskip : (skipsErrors (callOf s.action).toList || s.policy.ignoresErrors) = s.policy.ignoresErrors := by
    cases h : skipsErrors (callOf s.action).toList with
    | false => rfl
    | true => rw [hr.skipsErrors_callOf h, Bool.or_self]
  unfold reread
  rw [number_toDigits hs.1, readLine_callOf hr hs.2]
  exact ⟨_, rfl, rfl, hskip, rfl⟩

theorem reread_error {s : Step} (hr : Recorded s.action s.policy) (hs : ¬IsRenderable s) (index : Nat) :
    ∃ n, digitLimit < n ∧ reread index s = .error ⟨n⟩ := by
  unfold reread
  by_cases hk : s.policy.retries < 10 ^ digitLimit
  · obtain ⟨n, hn, he⟩ := readLine_callOf_error hr fun h => hs ⟨hk, h⟩
    rw [number_toDigits hk, he]
    exact ⟨n, hn, rfl⟩
  · have hl := number_toDigits_long (Nat.le_of_not_lt hk)
    rw [number_long hl]
    exact ⟨_, hl, rfl⟩

theorem rereadFrom_ok {steps : List Step} (hrec : ∀ s ∈ steps, Recorded s.action s.policy)
    (hs : ∀ s ∈ steps, IsRenderable s) (index : Nat) :
    ∃ more, rereadFrom index steps = .ok more ∧ List.Forall₂ Reread steps more := by
  induction steps generalizing index with
  | nil => exact ⟨[], rfl, .nil⟩
  | cons s rest ih =>
    obtain ⟨s', hs', hrel⟩ := reread_ok (hrec s (by simp)) (hs s (by simp)) index
    obtain ⟨more, hmore, hrels⟩ := ih (fun s' h => hrec s' (by simp [h])) (fun s' h => hs s' (by simp [h])) (index + 1)
    rw [rereadFrom, hs', hmore]
    exact ⟨_, rfl, .cons hrel hrels⟩

theorem rereadFrom_error {steps : List Step} (hrec : ∀ s ∈ steps, Recorded s.action s.policy)
    (hs : ∃ s ∈ steps, ¬IsRenderable s) (index : Nat) :
    ∃ n, digitLimit < n ∧ rereadFrom index steps = .error ⟨n⟩ := by
  induction steps generalizing index with
  | nil =>
    obtain ⟨s, hmem, _⟩ := hs
    cases hmem
  | cons s rest ih =>
    by_cases hr : IsRenderable s
    · have hrest : ∃ s ∈ rest, ¬IsRenderable s := by
        obtain ⟨s', hmem, hn⟩ := hs
        rcases List.mem_cons.mp hmem with rfl | hmem
        · exact absurd hr hn
        · exact ⟨s', hmem, hn⟩
      obtain ⟨n, hn, he⟩ := ih (fun s' h => hrec s' (by simp [h])) hrest (index + 1)
      obtain ⟨s', hs', _⟩ := reread_ok (hrec s (by simp)) hr index
      rw [rereadFrom, hs', he]
      exact ⟨n, hn, rfl⟩
    · obtain ⟨n, hn, he⟩ := reread_error (hrec s (by simp)) hr index
      rw [rereadFrom, he]
      exact ⟨n, hn, rfl⟩

/-! ## The script -/

theorem compileWith_render {steps : List Step} (h : ∀ s ∈ steps, Recorded s.action s.policy)
    (hs : ∀ s ∈ steps, IsRenderable s) (n : Nat) :
    ∃ c, compileWith n (render steps) = .ok c ∧ c.warnings = [] ∧ List.Forall₂ Reread steps c.steps := by
  obtain ⟨more, hmore, hrel⟩ := rereadFrom_ok h hs 1
  refine ⟨⟨more, []⟩, ?_, rfl, hrel⟩
  rw [compileWith_render_eq (fun s hs => (h s hs).onOneLine), hmore]

theorem compileWith_render_error {steps : List Step} (h : ∀ s ∈ steps, Recorded s.action s.policy)
    (hs : ∃ s ∈ steps, ¬IsRenderable s) (n : Nat) :
    ∃ digits, digitLimit < digits ∧ compileWith n (render steps) = .error (.numberTooLong digits) := by
  obtain ⟨digits, hd, he⟩ := rereadFrom_error h hs 1
  refine ⟨digits, hd, ?_⟩
  rw [compileWith_render_eq (fun s hs => (h s hs).onOneLine), he]

theorem compile_recorded {n : Int} {script : String} {c : Compiled} (h : compile n script = .ok c) :
    ∀ s ∈ c.steps, Recorded s.action s.policy := by
  unfold compile retryDefault at h
  split at h
  · cases h
  · exact compileWith_recorded h

/-- **A compiled script, rendered and compiled again.** The steps come back
with their actions, their handling of errors and, where no text assigns to a
retry counter, their retries; nothing is warned about. This fails only when a
number that the rendered script has in front has too many digits. -/
theorem compile_render {default again : Int} {script : String} {c : Compiled} (h : compile default script = .ok c)
    (ha : 0 ≤ again) :
    ((∀ s ∈ c.steps, IsRenderable s) →
      ∃ c', compile again (render c.steps) = .ok c' ∧ c'.warnings = [] ∧
        List.Forall₂ (fun s s' => s'.action = s.action ∧ s'.policy.ignoresErrors = s.policy.ignoresErrors ∧
          ((∀ x ∈ s.action.texts, retryDigits? x.toList = none) → s'.policy.retries = s.policy.retries)) c.steps c'.steps) ∧
      ((∃ s ∈ c.steps, ¬IsRenderable s) →
        ∃ digits, digitLimit < digits ∧ compile again (render c.steps) = .error (.numberTooLong digits)) := by
  have hrec := compile_recorded h
  rw [compile_eq_compileWith ha]
  constructor
  · intro hs
    obtain ⟨c', hc, hw, hrel⟩ := compileWith_render hrec hs again.toNat
    refine ⟨c', hc, hw, hrel.imp fun s s' hss => ⟨hss.action, hss.ignoresErrors, fun hx => ?_⟩⟩
    rw [hss.retries, writtenRetries_eq hx]
  · intro hs
    exact compileWith_render_error hrec hs again.toNat

/-- A click on a text that reads like the call of another idiom. -/
def quotedCall : Compiled where
  steps := [{ id := "step-1", ordinal := 1, action := .click "page.goto(", policy := ⟨false, 3⟩ }]
  warnings := []

theorem compile_render_quotedCall : compile 3 "# step 1\npage.click('page.goto(')" = .ok quotedCall ∧
    ∃ c', compile 0 (render quotedCall.steps) = .ok c' ∧ c'.warnings = [] ∧
      List.Forall₂ (fun s s' => s'.action = s.action ∧ s'.policy.ignoresErrors = s.policy.ignoresErrors ∧
        ((∀ x ∈ s.action.texts, retryDigits? x.toList = none) → s'.policy.retries = s.policy.retries))
        quotedCall.steps c'.steps := by
  have h : compile 3 "# step 1\npage.click('page.goto(')" = .ok quotedCall := by rfl
  have hretries : 3 < 10 ^ digitLimit :=
    Nat.lt_of_lt_of_le (by decide : 3 < 10 ^ 1) (Nat.pow_le_pow_right (by decide) (by decide))
  have hn : hiddenTime (.click "page.goto(") = none ∧ hiddenRetries (.click "page.goto(") = none := by decide
  refine ⟨h, (compile_render h (by decide : (0 : Int) ≤ 0)).1 fun s hs => ?_⟩
  rw [List.mem_singleton.mp hs]
  refine ⟨hretries, fun digits hd => ?_⟩
  rcases hd with hd | hd
  · cases hn.1.symm.trans hd
  · cases hn.2.symm.trans hd

/-! ## A script that does not come back -/

def waitLine (x : String) : String := "page.waitForTimeout(5); page.waitForSelector('" ++ x ++ "');"

def waitScript (x : String) : String := "// step 1\n" ++ waitLine x ++ "\n"

section
variable {x : String}

theorem waitLine_toList (x : String) :
    (waitLine x).toList = framed "page.waitForTimeout(5); page.waitForSelector(".toList [(x.toList, ");".toList)] :=
  append_framed x rfl rfl

theorem waitLine_head? (x : String) : (waitLine x).toList.head? = some 'p' := by
  rw [waitLine_toList]
  exact framed_head? rfl

theorem trim_waitLine (x : String) : trim (waitLine x).toList = (waitLine x).toList := by
  have hl : (waitLine x).toList.getLast? = some ';' := by
    rw [waitLine_toList]
    exact framed_getLast? rfl
  exact trim_self (waitLine_head? x) hl (by decide) (by decide)

theorem findAction_waitLine (hq : ∀ c ∈ x.toList, isQuote c = false) (hx : Quiet 3 x.toList) :
    findAction (waitLine x).toList idioms none = .ok (some (.wait .selector 0 x)) := by
  -- the first wait for some time is outside the text, so that the number inside is not read
  have htime : timeDigits? (waitLine x).toList = some ['5'] := by
    rw [waitLine_toList]
    rfl
  have hb : ∀ j ∈ idioms.take 4, ∀ e, j.find? (waitLine x).toList ≠ some (.error e) :=
    find?_ne_error (by decide) fun _ digits hd => by
      cases htime.symm.trans hd
      decide
  refine findAction_ok none rfl hb ?_ fun j hj => ?_
  · rw [waitLine_toList]
    show some (Except.ok (Action.wait .selector 0 (literal ('\'' :: (x.toList ++ '\'' :: ");".toList))))) = _
    rw [literal_quote hq]
  · have hfixed : ∀ j ∈ idioms.drop 5, j.opening? "page.waitForTimeout(5); page.waitForSelector(".toList = none := by
      decide
    have hmem := List.mem_of_mem_drop hj
    have hend : j.opening? ");".toList = none := opening?_missing hmem (by decide)
    rw [Idiom.find?_eq_none, ← Option.isNone_iff_eq_none, ← Option.isSome_eq_false_iff, waitLine_toList,
      framed_mark (opening?_cutsAt hmem '\'' (by decide)), hfixed j hj, List.any_cons, List.any_nil,
      hx.later j (List.drop_subset_drop_left idioms (by decide) hj), hend]
    rfl

/-- The last wait counts, whatever its text says. -/
theorem readLine_waitLine (hq : ∀ c ∈ x.toList, isQuote c = false) (hx : Quiet 3 x.toList) :
    readLine (waitLine x).toList = .ok ⟨some (.wait .selector 0 x), none, false, false⟩ := by
  have hend : Quiet 3 ");".toList := Quiet.of_missing (by decide) (by decide)
  have hretry : retryDigits? (waitLine x).toList = none := by
    have hfixed : '=' ∉ "page.waitForTimeout(5); page.waitForSelector(".toList := by decide
    have hstop : StopsAt '\'' retryAt? := retryAt?_stopsAt (by decide) (by decide) (by decide) (by decide)
    have hnext : ∀ r ∈ [(x.toList, ");".toList)], firstFrom true retryAt? false r.2 = none := fun r hr => by
      rw [List.mem_singleton.mp hr]
      exact hend.retry
    rw [waitLine_toList, retryDigits?_eq, framed_first hstop (retryDigits?_missing hfixed) hnext, List.findSome?_cons,
      ← retryDigits?_eq, hx.retry]
    rfl
  have hskip : skipsErrors (waitLine x).toList = false := by
    have hfixed : hasWarning "page.waitForTimeout(5); page.waitForSelector(".toList = false := by decide
    rw [skipsErrors_eq, waitLine_toList, framed_mark (hasWarning_cutsAt '\'' (by decide)), hfixed, List.any_cons,
      List.any_nil, hx.warning, hend.warning]
    rfl
  rw [readLine_eq (findAction_waitLine hq hx), hretry, hskip]
  rfl

theorem compile_waitScript (hq : ∀ c ∈ x.toList, isQuote c = false) (hx : Quiet 3 x.toList) (hb : Unbroken x) :
    compile 3 (waitScript x) =
      .ok ⟨[{ id := stepId 1, ordinal := 1, action := .wait .selector 0 x, policy := ⟨false, 3⟩ }], []⟩ := by
  have hline : Unbroken (waitLine x) := (Unbroken.append (by decide) hb).append (by decide)
  have hl : (waitScript x).toList = ["// step 1".toList, (waitLine x).toList].flatMap fun l => l ++ ['\n'] := by
    have ho : "// step 1\n".toList = "// step 1".toList ++ ['\n'] := rfl
    have hn : "\n".toList = ['\n'] := rfl
    simp only [waitScript, String.toList_append, ho, hn, List.flatMap_cons, List.flatMap_nil, List.append_nil,
      List.append_assoc]
  have hlines : lines (waitScript x).toList = ["// step 1".toList, (waitLine x).toList] := by
    rw [hl, lines_flatMap]
    have hmarker : Unbroken "// step 1" := by decide
    simp only [List.forall_mem_cons]
    exact ⟨hmarker, hline, fun _ h => nomatch h⟩
  have hm : isMarker (waitLine x).toList = false := isMarker_head (waitLine_head? x) (by decide) (by decide)
  have hfirst : isMarker (trim "// step 1".toList) = true ∧ readLine (trim "// step 1".toList) = .ok .nothing :=
    ⟨by decide, rfl⟩
  have hbody : ∀ l ∈ [(⟨2, (waitLine x).toList⟩ : Line)], isMarker l.text = false := fun l h => by
    rw [List.mem_singleton.mp h]
    exact hm
  have hfree := splitBlocks_free hbody []
  have hblocks : (splitBlocks (numberedFrom 1 (lines (waitScript x).toList))).2 =
      [⟨⟨1, trim "// step 1".toList⟩, [⟨2, (waitLine x).toList⟩]⟩] := by
    rw [List.append_nil] at hfree
    rw [hlines, numberedFrom, numberedFrom, numberedFrom, trim_waitLine, splitBlocks_marker hfirst.1, hfree]
    rfl
  have hread : readLines ⟨none, ⟨false, 3⟩, []⟩ [⟨1, trim "// step 1".toList⟩, ⟨2, (waitLine x).toList⟩] =
      .ok ⟨some (.wait .selector 0 x), ⟨false, 3⟩, []⟩ := by
    rw [readLines_cons hfirst.2, Draft.add_nothing, readLines_cons (readLine_waitLine hq hx)]
    rfl
  rw [compile_eq_compileWith (by decide), compileWith, hblocks, show (3 : Int).toNat = 3 from rfl,
    compileBlocks_cons (Block.compile_of_readLines hread)]
  rfl

end

theorem timeDigits?_waitForTimeout (n : Nat) : timeDigits? (callOf (.wait .time n "")).toList = some (Nat.toDigits 10 n) := by
  have hd := leadingDigits_toDigits n (c := ')') (by decide) [';']
  rw [callOf_waitForTimeout]
  show some (leadingDigits (skipBlanks (Nat.toDigits 10 n ++ ");".toList))).1 = _
  exact congrArg some hd

/-- A wait for an element named like a call whose number is too long is
compiled, since the name is not read. Rendered, the name comes first. -/
theorem compile_render_waitScript {n : Nat} (hn : 10 ^ digitLimit ≤ n) :
    ∃ c, compile 3 (waitScript (callOf (.wait .time n ""))) = .ok c ∧
      ∃ digits, compile 3 (render c.steps) = .error (.numberTooLong digits) := by
  have hline := callOf_waitForTimeout n ""
  have hq : ∀ c ∈ (callOf (.wait .time n "")).toList, isQuote c = false := by
    have ho : "await page.waitForTimeout(".toList.all (fun c => !isQuote c) = true := by decide
    have he : ");".toList.all (fun c => !isQuote c) = true := by decide
    intro c hc
    rw [hline] at hc
    rcases List.mem_append.mp hc with hc | hc
    · simpa using List.all_eq_true.mp ho c hc
    · rcases List.mem_append.mp hc with hc | hc
      · exact not_isQuote_of_isDigit (isDigit_toDigits hc)
      · simpa using List.all_eq_true.mp he c hc
  have hb : Unbroken (callOf (.wait .time n "")) :=
    (Unbroken.append (by decide : Unbroken "await page.waitForTimeout(") (Unbroken.toString n)).append (by decide : Unbroken ");")
  have hc := compile_waitScript hq (hline ▸ quiet_waitForTimeout n) hb
  have hlong : ¬HidesShort (.wait .selector 0 (callOf (.wait .time n ""))) := fun h => by
    have hh : hiddenTime (.wait .selector 0 (callOf (.wait .time n ""))) = some (Nat.toDigits 10 n) := by
      rw [hiddenTime, Action.texts, List.findSome?_cons, timeDigits?_waitForTimeout]
    have := h _ (.inl hh)
    have := number_toDigits_long hn
    omega
  obtain ⟨digits, _, he⟩ := compileWith_render_error (compile_recorded hc) ⟨_, List.mem_singleton_self _, fun h => hlong h.2⟩ 3
  exact ⟨_, hc, digits, (compile_eq_compileWith (by decide) _).trans he⟩

theorem compile_render_longNumber : ∃ c, compile 3 (waitScript (callOf (.wait .time (10 ^ digitLimit) ""))) = .ok c ∧
    ∃ digits, compile 3 (render c.steps) = .error (.numberTooLong digits) :=
  compile_render_waitScript (Nat.le_refl _)

end BrowserPilot.Script
