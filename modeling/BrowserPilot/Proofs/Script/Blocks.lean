import BrowserPilot.Proofs.Script.Joined
import BrowserPilot.Script.Compiler

/-!
# Blocks of a script

The lines of a script are those before its first marker and then those of its
blocks, each read by itself. A compiler that reads one line after the other,
and may have been used before, comes to the same steps and warnings.
-/

namespace BrowserPilot.Script

open Text

/-! ## The lines of the blocks -/

def Block.lines (b : Block) : List Line := b.marker :: b.body

/-- A block begins with a marker and goes up to the next one. -/
structure Block.IsWhole (b : Block) : Prop where
  marker : isMarker b.marker.text = true
  body : ∀ l ∈ b.body, isMarker l.text = false

def linesInBlocks (script : String) : List Line :=
  (numberedFrom 1 (lines script.toList)).dropWhile fun l => !isMarker l.text

theorem splitBlocks_fst (ls : List Line) : (splitBlocks ls).1 = ls.takeWhile fun l => !isMarker l.text := by
  induction ls with
  | nil => rfl
  | cons l ls ih =>
    cases hm : isMarker l.text with
    | true => simp [splitBlocks, hm]
    | false => simp [splitBlocks, hm, ih]

theorem flatMap_splitBlocks (ls : List Line) :
    (splitBlocks ls).2.flatMap Block.lines = ls.dropWhile fun l => !isMarker l.text := by
  induction ls with
  | nil => rfl
  | cons l ls ih =>
    cases hm : isMarker l.text with
    | true =>
      -- the lines up to the next marker go to the block that this one opens
      have hrest : (splitBlocks ls).1 ++ (splitBlocks ls).2.flatMap Block.lines = ls := by
        rw [splitBlocks_fst, ih, List.takeWhile_append_dropWhile]
      simp [splitBlocks, hm, Block.lines, hrest]
    | false => simp [splitBlocks, hm, ih]

theorem splitBlocks_isWhole (ls : List Line) : ∀ b ∈ (splitBlocks ls).2, b.IsWhole := by
  induction ls with
  | nil => simp [splitBlocks]
  | cons l ls ih =>
    cases hm : isMarker l.text with
    | true =>
      intro b hb
      simp only [splitBlocks, hm, if_true, List.mem_cons] at hb
      rcases hb with rfl | hb
      · refine ⟨hm, fun l' hl' => ?_⟩
        rw [splitBlocks_fst] at hl'
        simpa using List.all_eq_true.mp List.all_takeWhile l' hl'
      · exact ih b hb
    | false =>
      intro b hb
      simp only [splitBlocks, hm, Bool.false_eq_true, if_false] at hb
      exact ih b hb

theorem flatMap_blocksOf (script : String) : (blocksOf script).flatMap Block.lines = linesInBlocks script :=
  flatMap_splitBlocks _

/-! ## Reading lines -/

theorem readLines_error {d : Draft} {ls : List Line} {e : NumberTooLong} (h : readLines d ls = .error e) :
    ∃ l ∈ ls, readLine l.text = .error e := by
  induction ls generalizing d with
  | nil => cases h
  | cons l ls ih =>
    cases hr : readLine l.text with
    | error e' =>
      rw [readLines, hr] at h
      cases h
      exact ⟨l, by simp, hr⟩
    | ok r =>
      rw [readLines, hr] at h
      obtain ⟨l', hl', he⟩ := ih h
      exact ⟨l', by simp [hl'], he⟩

theorem readLines_ok {d d' : Draft} {ls : List Line} (h : readLines d ls = .ok d') :
    ∀ l ∈ ls, ∃ r, readLine l.text = .ok r := by
  induction ls generalizing d with
  | nil => simp
  | cons l ls ih =>
    cases hr : readLine l.text with
    | error e =>
      rw [readLines, hr] at h
      cases h
    | ok r =>
      rw [readLines, hr] at h
      intro l' hl'
      rcases List.mem_cons.mp hl' with rfl | hl'
      · exact ⟨r, hr⟩
      · exact ih h l' hl'

theorem Block.compile_error {retries k : Nat} {b : Block} {e : NumberTooLong} (h : b.compile retries k = .error e) :
    readLines ⟨none, ⟨false, retries⟩, []⟩ b.lines = .error e := by
  unfold Block.compile at h
  cases hd : readLines ⟨none, ⟨false, retries⟩, []⟩ (b.marker :: b.body) with
  | error e' =>
    rw [hd] at h
    cases h
    exact hd
  | ok d =>
    rw [hd] at h
    cases h

theorem compileBlocks_error {retries k : Nat} {bs : List Block} {e : NumberTooLong} (h : compileBlocks retries k bs = .error e) :
    ∃ l ∈ bs.flatMap Block.lines, readLine l.text = .error e := by
  induction bs generalizing k with
  | nil => cases h
  | cons b bs ih =>
    rw [List.flatMap_cons]
    cases hb : b.compile retries k with
    | error e' =>
      rw [compileBlocks_cons_error hb] at h
      cases h
      obtain ⟨l, hl, he⟩ := readLines_error (Block.compile_error hb)
      exact ⟨l, List.mem_append_left _ hl, he⟩
    | ok r =>
      rw [compileBlocks_cons hb] at h
      cases hr : compileBlocks retries (k + 1) bs with
      | error e' =>
        rw [hr] at h
        cases h
        obtain ⟨l, hl, he⟩ := ih hr
        exact ⟨l, List.mem_append_right _ hl, he⟩
      | ok more =>
        rw [hr] at h
        cases h

theorem compileBlocks_ok {retries k : Nat} {bs : List Block} {r : List Step × List Warning}
    (h : compileBlocks retries k bs = .ok r) : ∀ l ∈ bs.flatMap Block.lines, ∃ r, readLine l.text = .ok r := by
  induction bs generalizing k r with
  | nil => simp
  | cons b bs ih =>
    obtain ⟨step, warnings, more, hb, hmore, rfl⟩ := compileBlocks_cons_ok h
    obtain ⟨d, hd, _, _⟩ := Block.compile_ok hb
    intro l hl
    rw [List.flatMap_cons] at hl
    rcases List.mem_append.mp hl with hl | hl
    · exact readLines_ok hd l hl
    · exact ih hmore l hl

theorem compileWith_ok {n : Nat} {script : String} {c : Compiled} (h : compileWith n script = .ok c) :
    compileBlocks n 1 (blocksOf script) = .ok (c.steps, c.warnings) := by
  rw [compileWith_eq] at h
  cases hb : compileBlocks n 1 (blocksOf script) with
  | error e =>
    rw [hb] at h
    cases h
  | ok r =>
    rw [hb] at h
    cases h
    rfl

theorem compileWith_error {n : Nat} {script : String} {e : CompileError} (h : compileWith n script = .error e) :
    ∃ e', compileBlocks n 1 (blocksOf script) = .error e' ∧ e = .numberTooLong e'.digits := by
  rw [compileWith_eq] at h
  cases hb : compileBlocks n 1 (blocksOf script) with
  | error e' =>
    rw [hb] at h
    exact ⟨e', rfl, (Except.error.inj h).symm⟩
  | ok r =>
    rw [hb] at h
    cases h

/-! ## Reading one line after the other -/

def Draft.step (k : Nat) (d : Draft) : Step :=
  { id := stepId k, ordinal := k, action := d.action.getD (.navigate ""), policy := d.policy }

def Draft.allWarnings (number k : Nat) (d : Draft) : List Warning :=
  if d.action.isNone then d.warnings ++ [⟨number, .noAction k⟩] else d.warnings

theorem Block.compile_eq (retries k : Nat) (b : Block) :
    b.compile retries k =
      (readLines ⟨none, ⟨false, retries⟩, []⟩ b.lines).map fun d => (d.step k, d.allWarnings b.marker.number k) := rfl

def Scan.outcome : Except (NumberTooLong × List Warning) Scan → Except NumberTooLong (List Step × List Warning)
  | .error e => .error e.1
  | .ok s => .ok (s.flush.steps, s.flush.warnings)

namespace Scan

/-- A scan whose open step has come to a draft. -/
def within (steps : List Step) (warnings : List Warning) (k number : Nat) (d : Draft) : Scan :=
  ⟨steps, some ⟨k, number, d.action, d.policy⟩, warnings ++ d.warnings⟩

theorem flush_within (steps : List Step) (warnings : List Warning) (k number : Nat) (d : Draft) :
    (within steps warnings k number d).flush = ⟨steps ++ [d.step k], none, warnings ++ d.allWarnings number k⟩ := by
  unfold flush within Draft.allWarnings
  cases h : d.action <;> simp [OpenStep.step, Draft.step, stepId, h]

theorem apply_within (steps : List Step) (warnings : List Warning) (k number : Nat) (d : Draft) (l : Line) :
    (within steps warnings k number d).apply l = match Script.readLine l.text with
      | .error e => .error (e, warnings ++ d.warnings)
      | .ok r => .ok (within steps warnings k number (d.add l.number l.text r)) := by
  unfold apply within
  cases Script.readLine l.text with
  | error e => rfl
  | ok r => cases hu : r.isUnknownCall <;> simp [OpenStep.add, Draft.add, hu]

theorem readLine_body {retries : Nat} {s : Scan} {l : Line} (h : isMarker l.text = false) :
    s.readLine retries l = s.apply l := by
  simp [readLine, h]

theorem readLine_marker {retries : Nat} {s : Scan} {l : Line} (h : isMarker l.text = true) :
    s.readLine retries l = (within s.flush.steps s.flush.warnings (s.flush.steps.length + 1) l.number
      ⟨none, ⟨false, retries⟩, []⟩).apply l := by
  simp [readLine, h, openStep, within, OpenStep.opened]

/-- A scan within a block reads what is left of it, and then the blocks that
follow. -/
theorem outcome_within (retries : Nat) (ls : List Line) (steps : List Step) (warnings : List Warning) (number : Nat) (d : Draft) :
    outcome ((within steps warnings (steps.length + 1) number d).readLines retries ls) =
      (Script.readLines d (splitBlocks ls).1).bind fun d =>
        (compileBlocks retries (steps.length + 2) (splitBlocks ls).2).map fun r =>
          (steps ++ d.step (steps.length + 1) :: r.1, warnings ++ (d.allWarnings number (steps.length + 1) ++ r.2)) := by
  induction ls generalizing steps warnings number d with
  | nil => simp [readLines, outcome, flush_within, splitBlocks, Script.readLines, Except.bind, compileBlocks, Except.map]
  | cons l ls ih =>
    cases hm : isMarker l.text with
    | false =>
      have hsplit : splitBlocks (l :: ls) = (l :: (splitBlocks ls).1, (splitBlocks ls).2) := by simp [splitBlocks, hm]
      rw [hsplit, readLines, readLine_body hm, apply_within, Script.readLines]
      cases Script.readLine l.text with
      | error e => rfl
      | ok r => exact ih ..
    | true =>
      have hsplit : splitBlocks (l :: ls) = ([], ⟨l, (splitBlocks ls).1⟩ :: (splitBlocks ls).2) := by simp [splitBlocks, hm]
      rw [hsplit, readLines, readLine_marker hm, apply_within, flush_within, compileBlocks, Block.compile_eq, Block.lines,
        Script.readLines, Script.readLines]
      cases Script.readLine l.text with
      | error e => rfl
      | ok r =>
        have ih := ih (steps ++ [d.step (steps.length + 1)]) (warnings ++ d.allWarnings number (steps.length + 1)) l.number
          (Draft.add ⟨none, ⟨false, retries⟩, []⟩ l.number l.text r)
        simp only [List.length_append, List.length_singleton] at ih ⊢
        rw [ih]
        cases Script.readLines (Draft.add ⟨none, ⟨false, retries⟩, []⟩ l.number l.text r) (splitBlocks ls).1 with
        | error e => rfl
        | ok d' =>
          simp only [Except.bind, Except.map]
          cases compileBlocks retries (steps.length + 1 + 2) (splitBlocks ls).2 <;> simp

theorem outcome_readLines (retries : Nat) (ls : List Line) :
    outcome (empty.readLines retries ls) = compileBlocks retries 1 (splitBlocks ls).2 := by
  induction ls with
  | nil => rfl
  | cons l ls ih =>
    cases hm : isMarker l.text with
    | false =>
      have hsplit : (splitBlocks (l :: ls)).2 = (splitBlocks ls).2 := by simp [splitBlocks, hm]
      rw [hsplit, readLines, readLine_body hm]
      exact ih
    | true =>
      have hsplit : (splitBlocks (l :: ls)).2 = ⟨l, (splitBlocks ls).1⟩ :: (splitBlocks ls).2 := by simp [splitBlocks, hm]
      rw [hsplit, readLines, readLine_marker hm, apply_within, compileBlocks, Block.compile_eq, Block.lines, Script.readLines]
      cases Script.readLine l.text with
      | error e => rfl
      | ok r =>
        have h := outcome_within retries ls [] [] l.number (Draft.add ⟨none, ⟨false, retries⟩, []⟩ l.number l.text r)
        simp only [List.length_nil, Nat.zero_add, List.nil_append] at h
        simp only [empty, flush, List.length_nil, Nat.zero_add]
        rw [h]
        cases Script.readLines (Draft.add ⟨none, ⟨false, retries⟩, []⟩ l.number l.text r) (splitBlocks ls).1 <;> rfl

end Scan

namespace Compiler

theorem compile_retries (c : Compiler) (script : String) : (c.compile script).2.retries = c.retries := by
  unfold compile
  split <;> rfl

theorem afterAll_retries (c : Compiler) (scripts : List String) : (c.afterAll scripts).retries = c.retries := by
  induction scripts generalizing c with
  | nil => rfl
  | cons script scripts ih => rw [afterAll, ih, compile_retries]

/-- Only the default of a compiler counts for a script, not what it read before. -/
theorem compile_congr {c c' : Compiler} (h : c.retries = c'.retries) (script : String) : c.compile script = c'.compile script := by
  unfold compile
  rw [h]

theorem compile_ok_iff {c : Compiler} {script : String} {steps : List Step} {warnings : List Warning} :
    compileWith c.retries script = .ok ⟨steps, warnings⟩ ↔
      (c.compile script).1 = .ok steps ∧ (c.compile script).2.warnings = warnings := by
  have h := Scan.outcome_readLines c.retries (numberedFrom 1 (lines script.toList))
  rw [compileWith_eq, blocksOf, ← h, compile]
  cases Scan.empty.readLines c.retries (numberedFrom 1 (lines script.toList)) with
  | error e => simp [Scan.outcome]
  | ok s => simp [Scan.outcome]

end Compiler

end BrowserPilot.Script
