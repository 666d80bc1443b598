import BrowserPilot.Proofs.Script.Blockwise

/-!
# Calls that a script is warned about

A line that has a call on the page and no idiom leaves a warning with its
number, whatever else it says. A compiler keeps the warnings of the lines it
has read even if a later line makes it give up.
-/

namespace BrowserPilot.Script

open Text

/-! ## Foreign calls -/

/-- A call on the page whose name is that of no idiom. -/
def HasForeignCall (line : List Char) : Prop :=
  ∃ before name rest, line = before ++ ("page.".toList ++ (name ++ '(' :: rest)) ∧ StartsWord before ∧ name ≠ [] ∧
    (∀ c ∈ name, (isWord c || c = '$') = true) ∧
      ∀ i ∈ idioms, ∀ call ∈ i.calls, call.toList ≠ "page.".toList ++ (name ++ ['('])

theorem startsWord_nil : StartsWord [] := fun _ h => by cases h

theorem startsWord_of_eq {before : List Char} {c : Char} (h : before.getLast? = some c) (hc : isWord c = false) : StartsWord before :=
  fun d hd => by
    cases h.symm.trans hd
    exact hc

theorem HasForeignCall.hasPageCall {line : List Char} (h : HasForeignCall line) : HasPageCall line := by
  obtain ⟨before, name, rest, hline, hword, hname, hchars, _⟩ := h
  exact ⟨before, name, rest, hline, hword, hname, hchars⟩

theorem Line.warning?_eq_some {l : Line} (hp : HasPageCall l.text) (hc : ¬HasCall l.text) :
    l.warning? = some ⟨l.number, .unknownCall l.text⟩ := if_pos ⟨hp, hc⟩

theorem Line.warning?_number {l : Line} {w : Warning} (h : l.warning? = some w) : w.lineNumber = l.number := by
  unfold warning? at h
  split at h
  · cases h
    rfl
  · cases h

/-! ## Warnings of a scan -/

def Warning.isUnknownCall (w : Warning) : Bool :=
  match w.cause with
  | .unknownCall _ => true
  | .noAction _ => false

/-- The warnings about single lines, without those about whole blocks. -/
def unknownCalls (ws : List Warning) : List Warning := ws.filter Warning.isUnknownCall

/-- The lines up to the first with a number that is too long. -/
def readable (ls : List Line) : List Line := ls.takeWhile fun l => (readLine l.text).isOk

theorem unknownCalls_append (ws ws' : List Warning) : unknownCalls (ws ++ ws') = unknownCalls ws ++ unknownCalls ws' :=
  List.filter_append ..

theorem unknownCalls_warned {l : Line} {r : LineReading} (h : Reads l.text r) (ws : List Warning) :
    unknownCalls (if r.isUnknownCall then ws ++ [⟨l.number, .unknownCall l.text⟩] else ws) =
      unknownCalls ws ++ l.warning?.toList := by
  by_cases hu : r.isUnknownCall = true
  · obtain ⟨hp, hc⟩ := h.isUnknownCall.mp hu
    rw [if_pos hu, unknownCalls_append, Line.warning?_eq_some hp hc]
    rfl
  · have hnone : l.warning? = none := if_neg (mt h.isUnknownCall.mpr hu)
    rw [if_neg hu, hnone, Option.toList_none, List.append_nil]

namespace Scan

/-- The warnings that a scan has left, whether it gave up or not. -/
def left : Except (NumberTooLong × List Warning) Scan → List Warning
  | .error e => e.2
  | .ok s => s.warnings

theorem unknownCalls_flush (s : Scan) : unknownCalls s.flush.warnings = unknownCalls s.warnings := by
  unfold flush
  cases s.current with
  | none => rfl
  | some o =>
    dsimp only
    split
    · rw [unknownCalls_append]
      exact List.append_nil _
    · rfl

section
variable (retries : Nat) {s : Scan} {l : Line}

theorem apply_fails (hs : s.current.isSome = true) {e : NumberTooLong} (hr : Script.readLine l.text = .error e) :
    s.apply l = .error (e, s.warnings) := by
  obtain ⟨o, ho⟩ := Option.isSome_iff_exists.mp hs
  unfold apply
  rw [ho, hr]

theorem apply_reads (hs : s.current.isSome = true) {r : LineReading} (hr : Script.readLine l.text = .ok r) :
    ∃ s', s.apply l = .ok s' ∧ s'.current.isSome = true ∧
      unknownCalls s'.warnings = unknownCalls s.warnings ++ l.warning?.toList := by
  obtain ⟨o, ho⟩ := Option.isSome_iff_exists.mp hs
  unfold apply
  rw [ho, hr]
  exact ⟨_, rfl, rfl, unknownCalls_warned (readLine_reads hr) _⟩

theorem readLine_applies (h : isMarker l.text = true ∨ s.current.isSome = true) :
    ∃ s' : Scan, s.readLine retries l = s'.apply l ∧ s'.current.isSome = true ∧ unknownCalls s'.warnings = unknownCalls s.warnings := by
  cases hm : isMarker l.text with
  | true => exact ⟨s.openStep retries l, by simp [readLine, hm], rfl, unknownCalls_flush s⟩
  | false =>
    rcases h with h | h
    · rw [hm] at h
      cases h
    · exact ⟨s, readLine_body hm, h, rfl⟩

theorem readLine_skips (hm : isMarker l.text = false) (hs : s.current = none) : s.readLine retries l = .ok s := by
  rw [readLine_body hm, apply, hs]

theorem unknownCalls_within (ls : List Line) (h : s.current.isSome = true ∨ ∃ l, ls.head? = some l ∧ isMarker l.text = true) :
    unknownCalls (left (s.readLines retries ls)) = unknownCalls s.warnings ++ (readable ls).filterMap Line.warning? := by
  induction ls generalizing s with
  | nil => simp [readLines, left, readable]
  | cons l ls ih =>
    have hopen : isMarker l.text = true ∨ s.current.isSome = true := by simpa [or_comm] using h
    obtain ⟨s₁, happly, hs₁, hkept⟩ := readLine_applies retries hopen
    rw [readLines, happly, ← hkept]
    cases hr : Script.readLine l.text with
    | error e =>
      have hstop : readable (l :: ls) = [] := List.takeWhile_cons_of_neg (by simp [hr, Except.isOk, Except.toBool])
      rw [apply_fails hs₁ hr, hstop, List.filterMap_nil, List.append_nil]
      rfl
    | ok r =>
      have hmore : readable (l :: ls) = l :: readable ls := List.takeWhile_cons_of_pos (by simp [hr, Except.isOk, Except.toBool])
      obtain ⟨s₂, hs₂, hcurrent, hwarned⟩ := apply_reads hs₁ hr
      rw [hs₂, hmore, ih (.inl hcurrent), hwarned, List.append_assoc]
      cases hw : l.warning? <;> simp [hw]

theorem unknownCalls_readLines (ls : List Line) (hs : s.current = none) :
    unknownCalls (left (s.readLines retries ls)) =
      unknownCalls s.warnings ++ (readable (ls.dropWhile fun l => !isMarker l.text)).filterMap Line.warning? := by
  induction ls with
  | nil => simp [readLines, left, readable]
  | cons l ls ih =>
    cases hm : isMarker l.text with
    | true =>
      rw [List.dropWhile_cons_of_neg (by simp [hm])]
      exact unknownCalls_within retries (l :: ls) (.inr ⟨l, rfl, hm⟩)
    | false => rw [readLines, readLine_skips retries hm hs, List.dropWhile_cons_of_pos (by simp [hm]), ih]

end

end Scan

/-! ## Warnings of a compiler -/

theorem numberedFrom_ascends (k : Nat) (ls : List (List Char)) :
    (∀ l ∈ numberedFrom k ls, k ≤ l.number) ∧ (numberedFrom k ls).Pairwise fun l l' => l.number < l'.number := by
  induction ls generalizing k with
  | nil => simp [numberedFrom]
  | cons l ls ih =>
    obtain ⟨hfrom, hpairs⟩ := ih (k + 1)
    refine ⟨List.forall_mem_cons.mpr ⟨Nat.le_refl k, fun l' hl' => ?_⟩, List.pairwise_cons.mpr ⟨hfrom, hpairs⟩⟩
    have := hfrom l' hl'
    omega

theorem linesInBlocks_ascends (script : String) : (linesInBlocks script).Pairwise fun l l' => l.number < l'.number :=
  (numberedFrom_ascends 1 _).2.sublist (List.dropWhile_sublist _)

theorem exists_readable_eq {ls : List Line} (hn : ls.Pairwise fun l l' => l.number < l'.number) {l : Line} (hl : l ∈ ls)
    (hshort : ∀ l' ∈ ls, l'.number ≤ l.number → IsShort l'.text) :
    ∃ before after, readable ls = before ++ l :: after ∧ ∀ l' ∈ before ++ after, l'.number ≠ l.number := by
  obtain ⟨before, after, rfl⟩ := List.append_of_mem hl
  rw [List.pairwise_append, List.pairwise_cons] at hn
  obtain ⟨_, ⟨hafter, _⟩, hbefore⟩ := hn
  have hread : ∀ l' ∈ before ++ [l], (readLine l'.text).isOk = true := by
    intro l' hl'
    have hle : l'.number ≤ l.number := by
      rcases List.mem_append.mp hl' with h | h
      · exact Nat.le_of_lt (hbefore l' h l (List.mem_cons_self ..))
      · exact Nat.le_of_eq (congrArg Line.number (List.mem_singleton.mp h))
    obtain ⟨r, hr⟩ := readLine_ok_iff.mpr (hshort l' (by simp at hl' ⊢; tauto) hle)
    rw [hr]
    rfl
  refine ⟨before, readable after, ?_, fun l' hl' => ?_⟩
  · rw [readable, List.append_cons, List.takeWhile_append_of_pos hread, List.append_assoc, List.singleton_append]
    rfl
  · rcases List.mem_append.mp hl' with h | h
    · exact Nat.ne_of_lt (hbefore l' h l (List.mem_cons_self ..))
    · exact Nat.ne_of_gt (hafter l' ((List.takeWhile_sublist _).subset h))

namespace Compiler

theorem unknownCalls_compile (c : Compiler) (script : String) :
    unknownCalls (c.compile script).2.warnings = (readable (linesInBlocks script)).filterMap Line.warning? := by
  have h := Scan.unknownCalls_readLines c.retries (s := .empty) (numberedFrom 1 (lines script.toList)) rfl
  rw [← linesInBlocks] at h
  unfold compile
  cases hr : Scan.empty.readLines c.retries (numberedFrom 1 (lines script.toList)) with
  | error e =>
    rw [hr] at h
    exact h
  | ok s =>
    rw [hr] at h
    exact (Scan.unknownCalls_flush s).trans h

/-- **A foreign call is warned about.** A line of a block that has a foreign
call and no idiom leaves one warning with its number and text, whatever else it
says, if the compiler comes to read it: that is, if no number up to there is too
long. -/
theorem foreign_call_warns (c : Compiler) {script : String} {l : Line} (hl : l ∈ linesInBlocks script)
    (hshort : ∀ l' ∈ linesInBlocks script, l'.number ≤ l.number → IsShort l'.text)
    (hf : HasForeignCall l.text) (hc : ¬HasCall l.text) :
    (unknownCalls (c.compile script).2.warnings).filter (fun w => w.lineNumber = l.number) =
      [⟨l.number, .unknownCall l.text⟩] := by
  obtain ⟨before, after, hread, hother⟩ := exists_readable_eq (linesInBlocks_ascends script) hl hshort
  have hnone {ls : List Line} (h : ∀ l' ∈ ls, l'.number ≠ l.number) :
      (ls.filterMap Line.warning?).filter (fun w => w.lineNumber = l.number) = [] := by
    rw [List.filter_eq_nil_iff]
    intro w hw
    obtain ⟨l', hl', he⟩ := List.mem_filterMap.mp hw
    simp [Line.warning?_number he, h l' hl']
  rw [unknownCalls_compile, hread, List.filterMap_append, List.filterMap_cons, Line.warning?_eq_some hf.hasPageCall hc,
    List.filter_append, hnone fun l' h => hother l' (List.mem_append_left _ h), List.filter_cons,
    hnone fun l' h => hother l' (List.mem_append_right _ h)]
  simp

private def detour : String := "page.tap('#a')\n# step 1: page.hover('#b'); retries_step1 = 2\npage.click('#b')"

/-- A foreign call at a marker is warned about; the one before the block is not read. -/
theorem foreign_call_warns_detour :
    let l : Line := ⟨2, "# step 1: page.hover('#b'); retries_step1 = 2".toList⟩
    l ∈ linesInBlocks detour ∧ (∀ l' ∈ linesInBlocks detour, l'.number ≤ l.number → IsShort l'.text) ∧ HasForeignCall l.text ∧
      ¬HasCall l.text ∧ (unknownCalls (compile ⟨3, []⟩ detour).2.warnings).filter (fun w => w.lineNumber = 2) =
        [⟨2, .unknownCall l.text⟩] := by
  intro l
  have hl : l ∈ linesInBlocks detour := List.mem_of_getElem? (i := 0) rfl
  have hok : compileWith 3 detour = .ok ⟨[⟨stepId 1, 1, .click "#b", [], ⟨false, 2⟩⟩], [⟨2, .unknownCall l.text⟩]⟩ := by rfl
  have hshort : ∀ l' ∈ linesInBlocks detour, l'.number ≤ l.number → IsShort l'.text :=
    fun l' hl' _ => compileWith_ok_iff.mp ⟨_, hok⟩ l' hl'
  have hf : HasForeignCall l.text :=
    ⟨"# step 1: ".toList, "hover".toList, "'#b'); retries_step1 = 2".toList, rfl, startsWord_of_eq rfl rfl, by decide,
      List.all_eq_true.mp rfl, by decide⟩
  have hc : ¬HasCall l.text := by decide
  have hw := foreign_call_warns ⟨3, []⟩ hl hshort hf hc
  exact ⟨hl, hshort, hf, hc, hw⟩

private def hurried : String := "// Step 1\nawait page.click('#a'); await page.hover('#menu');"

private def retriesLine (digits : List Char) : List Char := "retries_step1 = ".toList ++ digits

private theorem retriesLine_fails {n : Nat} (h : digitLimit ≤ n) : ∃ e, readLine (retriesLine (List.replicate (n + 1) '9')) = .error e := by
  have hdigits (rest : List Char) : retryDigits? (retriesLine ('9' :: rest)) = some ('9' :: rest.takeWhile isDigit) := rfl
  have hread : retryDigits? (retriesLine (List.replicate (n + 1) '9')) = some (List.replicate (n + 1) '9') := by
    rw [List.replicate_succ, hdigits, List.takeWhile_replicate]
    rfl
  refine readLine_fails (.retries (retryDigits?_eq_some_iff.mp hread)) ?_
  rw [List.length_replicate]
  omega

private def breakingOff (digits : List Char) : String :=
  String.ofList (["// Step 1".toList, retriesLine digits, "page.hover('#menu');".toList].flatMap fun l => l ++ ['\n'])

private theorem lines_breakingOff (n : Nat) :
    numberedFrom 1 (lines (breakingOff (List.replicate (n + 1) '9')).toList) =
      [⟨1, "// Step 1".toList⟩, ⟨2, retriesLine (List.replicate (n + 1) '9')⟩, ⟨3, "page.hover('#menu');".toList⟩] := by
  have hunbroken : ∀ l ∈ ["// Step 1".toList, retriesLine (List.replicate (n + 1) '9'), "page.hover('#menu');".toList],
      ∀ c ∈ l, isBreak c = false := by
    have hfixed : Unbroken "// Step 1" ∧ Unbroken "retries_step1 = " ∧ Unbroken "page.hover('#menu');" := by decide
    simp only [List.forall_mem_cons]
    refine ⟨hfixed.1, fun c hc => ?_, hfixed.2.2, by simp⟩
    rcases List.mem_append.mp hc with hc | hc
    · exact hfixed.2.1 c hc
    · rw [List.eq_of_mem_replicate hc]
      rfl
  have hlast : (retriesLine (List.replicate (n + 1) '9')).getLast? = some '9' := by
    unfold retriesLine
    rw [List.getLast?_append, List.getLast?_replicate, if_neg (Nat.succ_ne_zero n), Option.some_or]
  have htrim : trim (retriesLine (List.replicate (n + 1) '9')) = retriesLine (List.replicate (n + 1) '9') :=
    trim_self (c := 'r') (d := '9') rfl hlast rfl rfl
  unfold breakingOff
  rw [String.toList_ofList, lines_flatMap hunbroken, numberedFrom, numberedFrom, numberedFrom, numberedFrom, htrim]
  rfl

private theorem breakingOff_silent {n : Nat} (h : digitLimit ≤ n) :
    ⟨3, "page.hover('#menu');".toList⟩ ∈ linesInBlocks (breakingOff (List.replicate (n + 1) '9')) ∧
      (compile ⟨3, []⟩ (breakingOff (List.replicate (n + 1) '9'))).2.warnings = [] := by
  obtain ⟨e, he⟩ := retriesLine_fails h
  have hfirst : Scan.empty.readLine 3 ⟨1, "// Step 1".toList⟩ = .ok ⟨[], some (.opened 3 1 1), []⟩ := rfl
  have hsecond : Scan.readLine 3 ⟨[], some (.opened 3 1 1), []⟩ ⟨2, retriesLine (List.replicate (n + 1) '9')⟩ =
      .error (e, []) := by
    rw [Scan.readLine_body rfl, Scan.apply_fails rfl he]
  constructor
  · rw [linesInBlocks, lines_breakingOff, List.dropWhile_cons_of_neg (by decide)]
    exact List.mem_of_getElem? (i := 2) rfl
  · unfold compile
    rw [lines_breakingOff, Scan.readLines, hfirst]
    dsimp only
    rw [Scan.readLines, hsecond]

/-- A foreign call is passed over in silence beside an idiom, and behind a
number that is too long. -/
theorem foreign_call_silent :
    (⟨2, "await page.click('#a'); await page.hover('#menu');".toList⟩ ∈ linesInBlocks hurried ∧
        HasForeignCall "await page.click('#a'); await page.hover('#menu');".toList ∧
        (compile ⟨3, []⟩ hurried).2.warnings = []) ∧
      ∃ digits, ⟨3, "page.hover('#menu');".toList⟩ ∈ linesInBlocks (breakingOff digits) ∧
        HasForeignCall "page.hover('#menu');".toList ∧
        (compile ⟨3, []⟩ (breakingOff digits)).2.warnings = [] := by
  have hbeside : HasForeignCall "await page.click('#a'); await page.hover('#menu');".toList :=
    ⟨"await page.click('#a'); await ".toList, "hover".toList, "'#menu');".toList, rfl, startsWord_of_eq rfl rfl, by decide,
      List.all_eq_true.mp rfl, by decide⟩
  have halone : HasForeignCall "page.hover('#menu');".toList :=
    ⟨[], "hover".toList, "'#menu');".toList, rfl, startsWord_nil, by decide, List.all_eq_true.mp rfl, by decide⟩
  obtain ⟨hmem, hsilent⟩ := breakingOff_silent (Nat.le_refl digitLimit)
  exact ⟨⟨by decide +kernel, hbeside, rfl⟩, _, hmem, halone, hsilent⟩

end Compiler

end BrowserPilot.Script
