import BrowserPilot.Proofs.Script.Compiled
import BrowserPilot.Proofs.Text.Lines

/-!
# Scripts joined at a marker

Compiling cuts a script at its marker lines and reads every block by itself.
So two scripts can be compiled apart and put together, if the second begins
with a marker: only ordinals and line numbers move.
-/

namespace BrowserPilot.Script

open Text

/-! ## Moving lines and ordinals -/

def Line.shifted (lines : Nat) (l : Line) : Line := { l with number := l.number + lines }

@[simp] theorem Line.shifted_text (lines : Nat) (l : Line) : (l.shifted lines).text = l.text := rfl

def Block.shifted (lines : Nat) (b : Block) : Block := ⟨b.marker.shifted lines, b.body.map (Line.shifted lines)⟩

/-- The warning when so many lines and steps come before. -/
def Warning.shifted (lines steps : Nat) (w : Warning) : Warning where
  lineNumber := w.lineNumber + lines
  cause := match w.cause with
    | .unknownCall line => .unknownCall line
    | .noAction ordinal => .noAction (ordinal + steps)

def Draft.shifted (lines steps : Nat) (d : Draft) : Draft :=
  { d with warnings := d.warnings.map (Warning.shifted lines steps) }

def renumbered (steps : Nat) (s : Step) : Step := { s with id := stepId (s.ordinal + steps), ordinal := s.ordinal + steps }

/-- What two scripts are compiled to together, the first with so many lines. -/
def Compiled.followedBy (lines : Nat) (c c' : Compiled) : Compiled where
  steps := c.steps ++ c'.steps.map (renumbered c.steps.length)
  warnings := c.warnings ++ c'.warnings.map (Warning.shifted lines c.steps.length)

theorem numberedFrom_shifted (n k : Nat) (ls : List (List Char)) :
    numberedFrom (k + n) ls = (numberedFrom k ls).map (Line.shifted n) := by
  induction ls generalizing k with
  | nil => rfl
  | cons l ls ih =>
    rw [numberedFrom, numberedFrom, Nat.add_right_comm, ih, List.map_cons]
    rfl

theorem splitBlocks_shifted (n : Nat) (ls : List Line) :
    splitBlocks (ls.map (Line.shifted n)) =
      ((splitBlocks ls).1.map (Line.shifted n), (splitBlocks ls).2.map (Block.shifted n)) := by
  induction ls with
  | nil => rfl
  | cons l ls ih =>
    by_cases hm : isMarker l.text = true
    · simp [splitBlocks, ih, hm, Line.shifted, Block.shifted]
    · simp [splitBlocks, ih, hm, Line.shifted]

theorem Draft.add_shifted (n k : Nat) (d : Draft) (l : Line) (r : LineReading) :
    (d.shifted n k).add (l.shifted n).number l.text r = (d.add l.number l.text r).shifted n k := by
  by_cases hu : r.isUnknownCall = true
  · simp [Draft.add, Draft.shifted, hu, Line.shifted, Warning.shifted]
  · simp [Draft.add, Draft.shifted, hu]

theorem readLines_shifted (n k : Nat) (d : Draft) (ls : List Line) :
    readLines (d.shifted n k) (ls.map (Line.shifted n)) = (readLines d ls).map (Draft.shifted n k) := by
  induction ls generalizing d with
  | nil => rfl
  | cons l ls ih =>
    rw [List.map_cons, readLines, readLines, Line.shifted_text]
    cases readLine l.text with
    | error e => rfl
    | ok r => simp only [Draft.add_shifted, ih]

theorem Block.compile_shifted (n k retries ordinal : Nat) (b : Block) :
    (b.shifted n).compile retries (ordinal + k) =
      (b.compile retries ordinal).map fun r => (renumbered k r.1, r.2.map (Warning.shifted n k)) := by
  have hread := readLines_shifted n k ⟨none, ⟨false, retries⟩, []⟩ (b.marker :: b.body)
  unfold Block.compile
  rw [show readLines ⟨none, ⟨false, retries⟩, []⟩ ((b.shifted n).marker :: (b.shifted n).body) = _ from hread]
  cases readLines ⟨none, ⟨false, retries⟩, []⟩ (b.marker :: b.body) with
  | error e => rfl
  | ok d =>
    by_cases ha : d.action.isNone = true
    · simp [Except.map, Draft.shifted, ha, renumbered, stepId, Warning.shifted, Block.shifted, Line.shifted]
    · simp [Except.map, Draft.shifted, ha, renumbered, stepId]

theorem compileBlocks_shifted (n k retries ordinal : Nat) (bs : List Block) :
    compileBlocks retries (ordinal + k) (bs.map (Block.shifted n)) =
      (compileBlocks retries ordinal bs).map fun r => (r.1.map (renumbered k), r.2.map (Warning.shifted n k)) := by
  induction bs generalizing ordinal with
  | nil => rfl
  | cons b bs ih =>
    have hb := Block.compile_shifted n k retries ordinal b
    rw [List.map_cons, compileBlocks, compileBlocks, hb]
    cases b.compile retries ordinal with
    | error e => rfl
    | ok r =>
      simp only [Except.map]
      rw [Nat.add_right_comm, ih]
      cases compileBlocks retries (ordinal + 1) bs with
      | error e => rfl
      | ok more => simp [Except.map]

/-! ## Blocks of two scripts -/

theorem splitBlocks_append {l : Line} (hl : isMarker l.text = true) (ls rest : List Line) :
    splitBlocks (ls ++ l :: rest) = ((splitBlocks ls).1, (splitBlocks ls).2 ++ (splitBlocks (l :: rest)).2) := by
  induction ls with
  | nil => simp [splitBlocks, hl]
  | cons l' ls ih =>
    by_cases hm : isMarker l'.text = true
    · simp [splitBlocks, ih, hm]
    · simp [splitBlocks, ih, hm]

theorem compileBlocks_append {retries ordinal : Nat} {bs : List Block} {r : List Step × List Warning}
    (h : compileBlocks retries ordinal bs = .ok r) (bs' : List Block) :
    compileBlocks retries ordinal (bs ++ bs') =
      (compileBlocks retries (ordinal + bs.length) bs').map fun r' => (r.1 ++ r'.1, r.2 ++ r'.2) := by
  induction bs generalizing ordinal r with
  | nil =>
    cases h
    cases hb : compileBlocks retries ordinal bs' <;> simp [hb, Except.map]
  | cons b bs ih =>
    obtain ⟨step, warnings, more, hb, hmore, rfl⟩ := compileBlocks_cons_ok h
    rw [List.cons_append, compileBlocks_cons hb, ih hmore, List.length_cons, Nat.add_right_comm, ← Nat.add_assoc]
    cases compileBlocks retries (ordinal + bs.length + 1) bs' <;> simp [Except.map]

theorem compileBlocks_length {retries ordinal : Nat} {bs : List Block} {r : List Step × List Warning}
    (h : compileBlocks retries ordinal bs = .ok r) : r.1.length = bs.length := by
  induction bs generalizing ordinal r with
  | nil =>
    cases h
    rfl
  | cons b bs ih =>
    obtain ⟨step, warnings, more, _, hmore, rfl⟩ := compileBlocks_cons_ok h
    rw [List.length_cons, List.length_cons, ih hmore]

theorem length_splitBlocks (ls : List Line) : (splitBlocks ls).2.length = ls.countP fun l => isMarker l.text := by
  induction ls with
  | nil => rfl
  | cons l ls ih =>
    by_cases hm : isMarker l.text = true
    · simp [splitBlocks, hm, ih]
    · simp [splitBlocks, hm, ih]

theorem countP_numberedFrom (k : Nat) (ls : List (List Char)) :
    (numberedFrom k ls).countP (fun l => isMarker l.text) = ls.countP fun l => isMarker (trim l) := by
  induction ls generalizing k with
  | nil => rfl
  | cons l ls ih => rw [numberedFrom, List.countP_cons, List.countP_cons, ih]

/-! ## Scripts -/

def blocksOf (script : String) : List Block := (splitBlocks (numberedFrom 1 (lines script.toList))).2

def markerCount (script : String) : Nat := (lines script.toList).countP fun l => isMarker (trim l)

def StartsWithMarker (script : String) : Prop := ∃ l rest, lines script.toList = l :: rest ∧ isMarker (trim l) = true

theorem compileWith_eq (n : Nat) (script : String) : compileWith n script =
    match compileBlocks n 1 (blocksOf script) with
    | .ok (steps, warnings) => .ok ⟨steps, warnings⟩
    | .error e => .error (.numberTooLong e.digits) := rfl

theorem length_blocksOf (script : String) : (blocksOf script).length = markerCount script :=
  (length_splitBlocks _).trans (countP_numberedFrom 1 _)

theorem StartsWithMarker.head?_ne {script : String} (h : StartsWithMarker script) : script.toList.head? ≠ some '\n' := by
  obtain ⟨l, rest, hl, hm⟩ := h
  intro hn
  obtain ⟨more, hmore⟩ := List.head?_eq_some_iff.mp hn
  rw [hmore, lines, linesFrom.eq_3 _ _ _ (by simp), if_pos (by decide)] at hl
  -- the first line would be empty, and an empty line is no marker
  rw [← (List.cons.inj hl).1] at hm
  cases hm

theorem blocksOf_append {before after : String} (hb : EndsLine before.toList) (ha : StartsWithMarker after) :
    blocksOf (before ++ after) =
      blocksOf before ++ (blocksOf after).map (Block.shifted (lines before.toList).length) := by
  have hlines : lines (before ++ after).toList = lines before.toList ++ lines after.toList := by
    rw [String.toList_append, lines_append hb ha.head?_ne]
  obtain ⟨l, rest, hl, hm⟩ := ha
  unfold blocksOf
  rw [hlines, numberedFrom_append, numberedFrom_shifted, hl, numberedFrom, List.map_cons,
    splitBlocks_append (by exact hm), ← List.map_cons, splitBlocks_shifted]

theorem compileWith_append {n : Nat} {before after : String} {c c' : Compiled} (hb : EndsLine before.toList)
    (ha : StartsWithMarker after) (hc : compileWith n before = .ok c) (hc' : compileWith n after = .ok c') :
    compileWith n (before ++ after) = .ok (c.followedBy (lines before.toList).length c') := by
  rw [compileWith_eq] at hc hc'
  cases h : compileBlocks n 1 (blocksOf before) with
  | error e =>
    rw [h] at hc
    cases hc
  | ok r =>
    cases h' : compileBlocks n 1 (blocksOf after) with
    | error e =>
      rw [h'] at hc'
      cases hc'
    | ok r' =>
      rw [h] at hc
      rw [h'] at hc'
      cases hc
      cases hc'
      have hlen := compileBlocks_length h
      rw [compileWith_eq, blocksOf_append hb ha, compileBlocks_append h, compileBlocks_shifted, h', ← hlen]
      rfl

theorem compileWith_free {n : Nat} {before after : String} (hb : EndsLine before.toList) (hfree : markerCount before = 0)
    (ha : StartsWithMarker after) : compileWith n (before ++ after) =
      (compileWith n after).map fun c =>
        { c with warnings := c.warnings.map (Warning.shifted (lines before.toList).length 0) } := by
  have hnil : blocksOf before = [] := List.length_eq_zero_iff.mp ((length_blocksOf before).trans hfree)
  have hshift := compileBlocks_shifted (lines before.toList).length 0 n 1 (blocksOf after)
  have hnum : ∀ {k : Nat} {steps : List Step}, Numbered k steps → steps.map (renumbered 0) = steps := by
    intro k steps h
    induction steps generalizing k with
    | nil => rfl
    | cons s steps ih =>
      obtain ⟨hid, hord, _, hrest⟩ := h
      have hs : renumbered 0 s = s := by
        rw [renumbered, Nat.add_zero, hord, ← hid, ← hord]
      rw [List.map_cons, hs, ih hrest]
  rw [compileWith_eq, compileWith_eq, blocksOf_append hb ha, hnil, List.nil_append]
  rw [Nat.add_zero] at hshift
  rw [hshift]
  cases h : compileBlocks n 1 (blocksOf after) with
  | error e => rfl
  | ok r =>
    simp only [Except.map]
    rw [hnum (compileBlocks_numbered n _ 1 h)]

/-- **Compiling respects joining at a marker.** The steps and warnings of two
scripts follow each other; a script has one step for every marker line, in an
order in which they can be run; and what comes before the first marker moves
the line numbers of warnings only. -/
theorem compile_append (default : Int) :
    (∀ {before after : String} {c c' : Compiled}, EndsLine before.toList → StartsWithMarker after →
      compile default before = .ok c → compile default after = .ok c' →
        compile default (before ++ after) = .ok (c.followedBy (lines before.toList).length c')) ∧
    (∀ {script : String} {c : Compiled}, compile default script = .ok c →
      c.steps.length = markerCount script ∧ Step.checkSequence c.steps = .ok ()) ∧
    ∀ {before after : String}, EndsLine before.toList → markerCount before = 0 → StartsWithMarker after →
      compile default (before ++ after) = (compile default after).map fun c =>
        { c with warnings := c.warnings.map (Warning.shifted (lines before.toList).length 0) } := by
  by_cases hd : default < 0
  · have hneg : ∀ script, compile default script = .error .negativeRetries := by
      intro script
      rw [compile, retryDefault, if_pos hd]
      rfl
    refine ⟨?_, ?_, ?_⟩
    · intro before after c c' _ _ h
      rw [hneg] at h
      cases h
    · intro script c h
      rw [hneg] at h
      cases h
    · intro before after _ _ _
      rw [hneg, hneg]
      rfl
  · have hpos : ∀ script, compile default script = compileWith default.toNat script :=
      compile_eq_compileWith (Int.not_lt.mp hd)
    simp only [hpos]
    refine ⟨compileWith_append, ?_, compileWith_free⟩
    intro script c h
    refine ⟨?_, compileWith_checkSequence h⟩
    rw [compileWith_eq] at h
    cases hb : compileBlocks default.toNat 1 (blocksOf script) with
    | error e =>
      rw [hb] at h
      cases h
    | ok r =>
      rw [hb] at h
      cases h
      rw [compileBlocks_length hb, length_blocksOf]

private def reloading : String := "# step 1\npage.reload()\n"

private def hovering : String := "// Step 9\npage.hover('#a')\npage.click('#a')"

/-- The first of the two has no action, the second a call that is no idiom. -/
theorem compile_append_strangeCalls :
    let c : Compiled := ⟨[⟨"step-1", 1, .navigate "", [], ⟨false, 3⟩⟩],
      [⟨2, .unknownCall "page.reload()".toList⟩, ⟨1, .noAction 1⟩]⟩
    let c' : Compiled := ⟨[⟨"step-1", 1, .click "#a", [], ⟨false, 3⟩⟩], [⟨2, .unknownCall "page.hover('#a')".toList⟩]⟩
    EndsLine reloading.toList ∧ StartsWithMarker hovering ∧ compile 3 reloading = .ok c ∧ compile 3 hovering = .ok c' ∧
      compile 3 (reloading ++ hovering) =
        .ok ⟨[⟨"step-1", 1, .navigate "", [], ⟨false, 3⟩⟩, ⟨"step-2", 2, .click "#a", [], ⟨false, 3⟩⟩],
          [⟨2, .unknownCall "page.reload()".toList⟩, ⟨1, .noAction 1⟩, ⟨4, .unknownCall "page.hover('#a')".toList⟩]⟩ ∧
      c.steps.length = markerCount reloading ∧
      EndsLine "Steps follow.\n".toList ∧ markerCount "Steps follow.\n" = 0 ∧
      compile 3 ("Steps follow.\n" ++ hovering) =
        .ok { c' with warnings := [⟨3, .unknownCall "page.hover('#a')".toList⟩] } := by
  intro c c'
  have hb : EndsLine reloading.toList := EndsLine.of_getLast? (c := '\n') (by decide) rfl
  have ha : StartsWithMarker hovering := ⟨"// Step 9".toList, _, rfl, by decide⟩
  have hc : compile 3 reloading = .ok c := by rfl
  have hc' : compile 3 hovering = .ok c' := by rfl
  have hfree : EndsLine "Steps follow.\n".toList := EndsLine.of_getLast? (c := '\n') (by decide) rfl
  obtain ⟨happend, hcount, hskip⟩ := compile_append 3
  have hjoined := happend hb ha hc hc'
  have hid : stepId (1 + 1) = "step-2" := by decide
  rw [Compiled.followedBy, show c'.steps.map (renumbered c.steps.length) = [⟨stepId (1 + 1), 2, .click "#a", [], ⟨false, 3⟩⟩] from rfl,
    hid] at hjoined
  have hskip := hskip hfree rfl ha
  rw [hc'] at hskip
  exact ⟨hb, ha, hc, hc', hjoined, (hcount hc).1, hfree, rfl, hskip⟩

end BrowserPilot.Script
