import BrowserPilot.Proofs.Script.Blocks
import BrowserPilot.Proofs.Script.Marks
import BrowserPilot.Proofs.Script.RoundTrip

/-!
# Numbers of a script

Three numbers are read on a line: the time of its first wait, the target of its
first scroll and its first retries. A script is compiled exactly if each of
those in its blocks has few enough digits.
-/

namespace BrowserPilot.Script

open Text

/-! ## The numbers of a line -/

def scrollDigits (cs : List Char) : List Char :=
  match (skipBlanks cs).dropWhile fun c => !(c = ',' || c = '(' || c = ')') with
  | ',' :: rest => (leadingDigits (skipBlanks rest)).1
  | _ => []

theorem scrollTarget_eq (cs : List Char) : scrollTarget cs =
    if (scrollDigits cs).isEmpty then .ok .bottom else (number (scrollDigits cs)).map .pixels := by
  unfold scrollTarget scrollDigits
  cases (skipBlanks cs).dropWhile fun c => !(c = ',' || c = '(' || c = ')') with
  | nil => rfl
  | cons c rest =>
    by_cases hc : c = ','
    · subst hc
      rfl
    · simp [hc]

def scrollIdiom : Idiom where
  calls := ["window.scrollTo("]
  atWord := false
  action := fun _ cs => (scrollTarget cs).map fun t => .scroll t .down

theorem timeIdiom_mem : timeIdiom ∈ idioms := List.mem_of_getElem? (i := 3) rfl

theorem scrollIdiom_mem : scrollIdiom ∈ idioms := List.mem_of_getElem? (i := 7) rfl

/-- The digits of a number that is read on a line. -/
inductive ReadsNumber (line : List Char) : List Char → Prop
  | wait {before rest : List Char} (call : timeIdiom.IsFirstCall line before rest) :
      ReadsNumber line (leadingDigits (skipBlanks rest)).1
  | scroll {before rest : List Char} (call : scrollIdiom.IsFirstCall line before rest) : ReadsNumber line (scrollDigits rest)
  | retries {digits : List Char} (assigned : AssignsRetries line digits) : ReadsNumber line digits

def IsShort (line : List Char) : Prop := ∀ digits, ReadsNumber line digits → digits.length ≤ digitLimit

theorem number_eq_error {digits : List Char} {e : NumberTooLong} (h : number digits = .error e) :
    digitLimit < digits.length ∧ e = ⟨digits.length⟩ := by
  unfold number at h
  split at h
  · next hl => exact ⟨hl, (Except.error.inj h).symm⟩
  · cases h

theorem number_eq_ok {digits : List Char} {n : Nat} (h : number digits = .ok n) : n = readNat digits := by
  unfold number at h
  split at h
  · cases h
  · exact (Except.ok.inj h).symm

theorem scrollTarget_eq_error {cs : List Char} {e : NumberTooLong} (h : scrollTarget cs = .error e) :
    digitLimit < (scrollDigits cs).length ∧ e = ⟨(scrollDigits cs).length⟩ := by
  rw [scrollTarget_eq] at h
  split at h
  · cases h
  · cases hn : number (scrollDigits cs) with
    | error e' =>
      rw [hn] at h
      cases h
      exact number_eq_error hn
    | ok n =>
      rw [hn] at h
      cases h

theorem scrollTarget_long {cs : List Char} (h : digitLimit < (scrollDigits cs).length) :
    scrollTarget cs = .error ⟨(scrollDigits cs).length⟩ := by
  have hne : (scrollDigits cs).isEmpty = false := by
    rw [List.isEmpty_eq_false_iff]
    intro hn
    rw [hn] at h
    exact absurd h (by decide)
  rw [scrollTarget_eq, hne, number_long h]
  rfl

/-! ## Lines -/

/-- Only waits and scrolls bring a number. -/
theorem find?_eq_error {i : Idiom} (hi : i ∈ idioms) {line : List Char} {e : NumberTooLong}
    (h : i.find? line = some (.error e)) : ∃ digits, ReadsNumber line digits ∧ digitLimit < digits.length ∧ e = ⟨digits.length⟩ := by
  rw [Idiom.find?_eq, Option.map_eq_some_iff] at h
  obtain ⟨rest, ho, ha⟩ := h
  obtain ⟨before, hf⟩ := (opening?_eq_some_iff hi).mp ho
  simp only [idioms, List.mem_cons, List.not_mem_nil, or_false] at hi
  rcases hi with rfl | rfl | rfl | rfl | rfl | rfl | rfl | rfl
  · cases ha
  · cases ha
  · cases ha
  · dsimp only at ha
    cases hn : number (leadingDigits (skipBlanks rest)).1 with
    | error e' =>
      rw [hn] at ha
      cases ha
      exact ⟨_, .wait hf, number_eq_error hn⟩
    | ok n =>
      rw [hn] at ha
      cases ha
  · cases ha
  · cases ha
  · cases ha
  · dsimp only at ha
    cases ht : scrollTarget rest with
    | error e' =>
      rw [ht] at ha
      cases ha
      exact ⟨_, .scroll hf, scrollTarget_eq_error ht⟩
    | ok t =>
      rw [ht] at ha
      cases ha

theorem findAction_eq_error {line : List Char} {l : List Idiom} {found : Option Action} {e : NumberTooLong}
    (h : findAction line l found = .error e) : ∃ i ∈ l, i.find? line = some (.error e) := by
  induction l generalizing found with
  | nil => cases h
  | cons i rest ih =>
    unfold findAction at h
    cases hi : i.find? line with
    | none =>
      rw [hi] at h
      obtain ⟨j, hj, he⟩ := ih h
      exact ⟨j, by simp [hj], he⟩
    | some r =>
      rw [hi] at h
      cases r with
      | error e' =>
        cases h
        exact ⟨i, by simp, hi⟩
      | ok a =>
        obtain ⟨j, hj, he⟩ := ih h
        exact ⟨j, by simp [hj], he⟩

theorem findAction_fails {line : List Char} {l : List Idiom} {i : Idiom} {e : NumberTooLong} (hi : i ∈ l)
    (he : i.find? line = some (.error e)) (found : Option Action) : ∃ e', findAction line l found = .error e' := by
  induction l generalizing found with
  | nil => cases hi
  | cons j rest ih =>
    unfold findAction
    cases hj : j.find? line with
    | none =>
      rcases List.mem_cons.mp hi with rfl | hi
      · cases he.symm.trans hj
      · exact ih hi found
    | some r =>
      cases r with
      | error e' => exact ⟨e', rfl⟩
      | ok a =>
        rcases List.mem_cons.mp hi with rfl | hi
        · cases he.symm.trans hj
        · exact ih hi (some a)

theorem readLine_eq_error {line : List Char} {e : NumberTooLong} (h : readLine line = .error e) :
    ∃ digits, ReadsNumber line digits ∧ digitLimit < digits.length ∧ e = ⟨digits.length⟩ := by
  cases hf : findAction line idioms none with
  | error e' =>
    unfold readLine at h
    rw [hf] at h
    cases h
    obtain ⟨i, hi, he⟩ := findAction_eq_error hf
    exact find?_eq_error hi he
  | ok action =>
    rw [readLine_eq hf] at h
    cases hd : retryDigits? line with
    | none =>
      rw [hd] at h
      cases h
    | some digits =>
      rw [hd] at h
      cases hn : number digits with
      | error e' =>
        simp only [hn] at h
        cases h
        exact ⟨digits, .retries (retryDigits?_eq_some_iff.mp hd), number_eq_error hn⟩
      | ok n =>
        simp only [hn] at h
        cases h

/-- A number that is too long fails its line, whatever else stands there. -/
theorem readLine_fails {line digits : List Char} (h : ReadsNumber line digits) (hl : digitLimit < digits.length) :
    ∃ e, readLine line = .error e := by
  have hcall {i : Idiom} {e : NumberTooLong} (hi : i ∈ idioms) (he : i.find? line = some (.error e)) :
      ∃ e, readLine line = .error e := by
    obtain ⟨e', hf⟩ := findAction_fails hi he none
    refine ⟨e', ?_⟩
    unfold readLine
    rw [hf]
    rfl
  cases h with
  | @wait before rest hf =>
    refine hcall timeIdiom_mem (e := ⟨(leadingDigits (skipBlanks rest)).1.length⟩) ?_
    rw [Idiom.find?_eq, (opening?_eq_some_iff timeIdiom_mem).mpr ⟨before, hf⟩, Option.map_some]
    show some ((number _).map _) = _
    rw [number_long hl]
    rfl
  | @scroll before rest hf =>
    refine hcall scrollIdiom_mem (e := ⟨(scrollDigits rest).length⟩) ?_
    rw [Idiom.find?_eq, (opening?_eq_some_iff scrollIdiom_mem).mpr ⟨before, hf⟩, Option.map_some]
    show some ((scrollTarget rest).map _) = _
    rw [scrollTarget_long hl]
    rfl
  | retries ha =>
    cases hf : findAction line idioms none with
    | error e =>
      refine ⟨e, ?_⟩
      unfold readLine
      rw [hf]
      rfl
    | ok action =>
      refine ⟨⟨digits.length⟩, ?_⟩
      rw [readLine_eq hf, retryDigits?_eq_some_iff.mpr ha]
      simp only [number_long hl]
      rfl

theorem readLine_ok_iff {line : List Char} : (∃ r, readLine line = .ok r) ↔ IsShort line := by
  constructor
  · rintro ⟨r, hr⟩ digits hd
    by_contra hl
    obtain ⟨e, he⟩ := readLine_fails hd (Nat.lt_of_not_le hl)
    cases he.symm.trans hr
  · intro h
    cases hr : readLine line with
    | ok r => exact ⟨r, rfl⟩
    | error e =>
      obtain ⟨digits, hd, hl, _⟩ := readLine_eq_error hr
      exact absurd (h digits hd) (by omega)

/-! ## Scripts -/

theorem compileWith_ok_iff {n : Nat} {script : String} :
    (∃ c, compileWith n script = .ok c) ↔ ∀ l ∈ linesInBlocks script, IsShort l.text := by
  rw [← flatMap_blocksOf]
  constructor
  · rintro ⟨c, hc⟩ l hl
    exact readLine_ok_iff.mp (compileBlocks_ok (compileWith_ok hc) l hl)
  · intro h
    cases hc : compileWith n script with
    | ok c => exact ⟨c, rfl⟩
    | error e =>
      obtain ⟨e', hb, _⟩ := compileWith_error hc
      obtain ⟨l, hl, hr⟩ := compileBlocks_error hb
      obtain ⟨r, hr'⟩ := readLine_ok_iff.mpr (h l hl)
      cases hr.symm.trans hr'

theorem compileWith_eq_error {n : Nat} {script : String} {e : CompileError} (h : compileWith n script = .error e) :
    ∃ l ∈ linesInBlocks script, ∃ digits, ReadsNumber l.text digits ∧ digitLimit < digits.length ∧
      e = .numberTooLong digits.length := by
  obtain ⟨e', hb, rfl⟩ := compileWith_error h
  obtain ⟨l, hl, hr⟩ := compileBlocks_error hb
  obtain ⟨digits, hd, hlong, rfl⟩ := readLine_eq_error hr
  exact ⟨l, flatMap_blocksOf script ▸ hl, digits, hd, hlong, rfl⟩

/-- **What can fail a script.** A script is compiled exactly if no number that
is read in its blocks is too long; otherwise the length of one of them is the
reason given. -/
theorem compile_succeeds_iff {default : Int} (h : 0 ≤ default) (script : String) :
    ((∃ c, compile default script = .ok c) ↔ ∀ l ∈ linesInBlocks script, IsShort l.text) ∧
      ∀ e, compile default script = .error e → ∃ l ∈ linesInBlocks script, ∃ digits, ReadsNumber l.text digits ∧
        digitLimit < digits.length ∧ e = .numberTooLong digits.length := by
  rw [compile_eq_compileWith h]
  exact ⟨compileWith_ok_iff, fun _ => compileWith_eq_error⟩

/-- Digits of any script count. -/
theorem compile_succeeds_iff_easternDigits :
    (0 : Int) ≤ 2 ∧
      compile 2 "# خطوة ٣\nawait page.waitForTimeout(٥٠٠)\nretries_step٣ = ۷" =
        .ok ⟨[⟨"step-1", 1, .wait .time 500 "", [], ⟨false, 7⟩⟩], []⟩ ∧
      ∀ l ∈ linesInBlocks "# خطوة ٣\nawait page.waitForTimeout(٥٠٠)\nretries_step٣ = ۷", IsShort l.text := by
  have h : (0 : Int) ≤ 2 := by decide
  have hc : compile 2 "# خطوة ٣\nawait page.waitForTimeout(٥٠٠)\nretries_step٣ = ۷" =
      .ok ⟨[⟨"step-1", 1, .wait .time 500 "", [], ⟨false, 7⟩⟩], []⟩ := by rfl
  exact ⟨h, hc, (compile_succeeds_iff h _).1.mp ⟨_, hc⟩⟩

/-! ## A script that is not compiled -/

theorem readsNumber_of_timeDigits? {line digits : List Char} (h : timeDigits? line = some digits) : ReadsNumber line digits := by
  rw [timeDigits?] at h
  unfold timeAt? at h
  rw [firstFrom_map, Option.map_eq_some_iff] at h
  obtain ⟨rest, ho, rfl⟩ := h
  have ho : timeIdiom.opening? line = some rest := ho
  obtain ⟨before, hf⟩ := (opening?_eq_some_iff timeIdiom_mem).mp ho
  exact .wait hf

theorem linesInBlocks_eq {script : String} {l : List Char} {rest : List (List Char)} (h : lines script.toList = l :: rest)
    (hm : isMarker (trim l) = true) : linesInBlocks script = numberedFrom 1 (l :: rest) := by
  rw [linesInBlocks, h, numberedFrom, List.dropWhile_cons_of_neg (by simp [hm])]

def paymentScript (ms : Nat) : String := "// step 1\n" ++ callOf (.wait .time ms "") ++ "\npage.click('#pay');\n"

theorem lines_paymentScript (ms : Nat) : lines (paymentScript ms).toList =
    ["// step 1".toList, (callOf (.wait .time ms "")).toList, "page.click('#pay');".toList] := by
  have hl : (paymentScript ms).toList =
      ["// step 1".toList, (callOf (.wait .time ms "")).toList, "page.click('#pay');".toList].flatMap fun l => l ++ ['\n'] := by
    have hfirst : "// step 1\n".toList = "// step 1".toList ++ ['\n'] := rfl
    have hlast : "\npage.click('#pay');\n".toList = ['\n'] ++ ("page.click('#pay');".toList ++ ['\n']) := rfl
    simp only [paymentScript, String.toList_append, hfirst, hlast, List.flatMap_cons, List.flatMap_nil, List.append_nil,
      List.append_assoc]
  have hwait : Unbroken (callOf (.wait .time ms "")) := callOf_unbroken fun x hx => by
    rw [List.mem_singleton.mp hx]
    decide
  have hfixed : Unbroken "// step 1" ∧ Unbroken "page.click('#pay');" := by decide
  rw [hl, lines_flatMap]
  simp only [List.forall_mem_cons]
  exact ⟨hfixed.1, hwait, hfixed.2, by simp⟩

theorem compile_paymentScript {ms : Nat} (h : 10 ^ digitLimit ≤ ms) :
    ∃ digits, compile 3 (paymentScript ms) = .error (.numberTooLong digits) := by
  have hmem : ⟨2, (callOf (.wait .time ms "")).toList⟩ ∈ linesInBlocks (paymentScript ms) := by
    have hcall : trim (callOf (.wait .time ms "")).toList = (callOf (.wait .time ms "")).toList := by
      obtain ⟨hf, hl⟩ := callOf_ends (.wait .time ms "")
      rcases hf with hf | hf
      · exact trim_self hf hl (by decide) (by decide)
      · exact trim_self hf hl (by decide) (by decide)
    rw [linesInBlocks_eq (lines_paymentScript ms) (by decide), numberedFrom, numberedFrom, hcall]
    simp
  have hlong : ¬IsShort (callOf (.wait .time ms "")).toList := fun hs => by
    have := hs _ (readsNumber_of_timeDigits? (timeDigits?_waitForTimeout ms))
    have := number_toDigits_long h
    omega
  rw [compile_eq_compileWith (by decide)]
  cases hc : compileWith (3 : Int).toNat (paymentScript ms) with
  | ok c => exact absurd (compileWith_ok_iff.mp ⟨c, hc⟩ _ hmem) hlong
  | error e =>
    obtain ⟨l, _, digits, _, _, rfl⟩ := compileWith_eq_error hc
    exact ⟨_, rfl⟩

/-- A wait that is too long is an error, and the payment is lost with it. -/
theorem compile_longWait : (0 : Int) ≤ 3 ∧ ∃ digits, compile 3 (paymentScript (10 ^ digitLimit)) = .error (.numberTooLong digits) :=
  ⟨by decide, compile_paymentScript (Nat.le_refl _)⟩

end BrowserPilot.Script
