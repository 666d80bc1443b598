import BrowserPilot.Proofs.Script.Blockwise

/-!
# Steps without their warnings

The steps of a script depend on the texts of its blocks only. Warnings tell the
numbers of lines; steps do not, so that lines can be moved in a script.
-/

namespace BrowserPilot.Script

open Text

/-! ## Texts of a block -/

abbrev Said := Option Action × ErrorPolicy

def Draft.said (d : Draft) : Said := (d.action, d.policy)

def LineReading.addTo (r : LineReading) (said : Said) : Said :=
  (r.action.orElse fun _ => said.1, ⟨said.2.ignoresErrors || r.skipsErrors, r.retries.getD said.2.retries⟩)

def readTexts : Said → List (List Char) → Except NumberTooLong Said
  | said, [] => .ok said
  | said, text :: rest =>
    match readLine text with
    | .error e => .error e
    | .ok r => readTexts (r.addTo said) rest

theorem readTexts_cons {text : List Char} {r : LineReading} (h : readLine text = .ok r) (said : Said)
    (rest : List (List Char)) : readTexts said (text :: rest) = readTexts (r.addTo said) rest := by
  rw [readTexts, h]

theorem readTexts_cons_error {text : List Char} {e : NumberTooLong} (h : readLine text = .error e) (said : Said)
    (rest : List (List Char)) : readTexts said (text :: rest) = .error e := by
  rw [readTexts, h]

theorem readTexts_append (said : Said) (texts rest : List (List Char)) :
    readTexts said (texts ++ rest) = (readTexts said texts).bind fun said => readTexts said rest := by
  induction texts generalizing said with
  | nil => rfl
  | cons text texts ih =>
    rw [List.cons_append]
    cases hr : readLine text with
    | error e =>
      rw [readTexts_cons_error hr, readTexts_cons_error hr]
      rfl
    | ok r => rw [readTexts_cons hr, readTexts_cons hr, ih]

theorem readLines_said (d : Draft) (ls : List Line) : (readLines d ls).map Draft.said = readTexts d.said (ls.map Line.text) := by
  induction ls generalizing d with
  | nil => rfl
  | cons l ls ih =>
    rw [readLines, List.map_cons]
    cases hr : readLine l.text with
    | error e =>
      rw [readTexts_cons_error hr]
      rfl
    | ok r =>
      rw [readTexts_cons hr]
      exact ih _

/-- An action said before counts for texts only if none of them has a call. -/
theorem readTexts_action {said result : Said} {texts : List (List Char)} (h : readTexts said texts = .ok result) :
    ((∃ text ∈ texts, HasCall text) → ∀ a, readTexts (a, said.2) texts = .ok result) ∧
      ((¬∃ text ∈ texts, HasCall text) → result.1 = said.1 ∧ ∀ a, readTexts (a, said.2) texts = .ok (a, result.2)) := by
  induction texts generalizing said with
  | nil =>
    cases h
    simp [readTexts]
  | cons text texts ih =>
    cases hr : readLine text with
    | error e =>
      rw [readTexts_cons_error hr] at h
      cases h
    | ok r =>
      rw [readTexts_cons hr] at h
      have hreads := readLine_reads hr
      obtain ⟨hcall, hnone⟩ := ih h
      cases ha : r.action with
      | some b =>
        -- what was said before is replaced
        have hsame (a : Option Action) : r.addTo (a, said.2) = r.addTo said := by simp [LineReading.addTo, ha]
        constructor
        · intro _ a
          rw [readTexts_cons hr, hsame, h]
        · intro hno
          exact absurd ⟨text, by simp, (hreads.action b ha).1⟩ hno
      | none =>
        have hkept (a : Option Action) : r.addTo (a, said.2) = (a, (r.addTo said).2) := by simp [LineReading.addTo, ha]
        have hfirst : (r.addTo said).1 = said.1 := by simp [LineReading.addTo, ha]
        have htail : (∃ t ∈ text :: texts, HasCall t) ↔ ∃ t ∈ texts, HasCall t := by simp [hreads.noAction ha]
        rw [htail]
        constructor
        · intro hc a
          rw [readTexts_cons hr, hkept]
          exact hcall hc a
        · intro hno
          obtain ⟨heq, hall⟩ := hnone hno
          refine ⟨heq.trans hfirst, fun a => ?_⟩
          rw [readTexts_cons hr, hkept]
          exact hall a

/-! ## Texts of a script -/

def Block.texts (b : Block) : List (List Char) := b.lines.map Line.text

def stepOf (k : Nat) (said : Said) : Step :=
  { id := stepId k, ordinal := k, action := said.1.getD (.navigate ""), policy := said.2 }

def stepsOf (default : Nat) : Nat → List (List (List Char)) → Except NumberTooLong (List Step)
  | _, [] => .ok []
  | k, texts :: rest =>
    match readTexts (none, ⟨false, default⟩) texts with
    | .error e => .error e
    | .ok said => (stepsOf default (k + 1) rest).map (stepOf k said :: ·)

theorem stepsOf_cons {default k : Nat} {texts : List (List Char)} {said : Said}
    (h : readTexts (none, ⟨false, default⟩) texts = .ok said) (rest : List (List (List Char))) :
    stepsOf default k (texts :: rest) = (stepsOf default (k + 1) rest).map (stepOf k said :: ·) := by
  rw [stepsOf, h]

theorem stepsOf_cons_error {default k : Nat} {texts : List (List Char)} {e : NumberTooLong}
    (h : readTexts (none, ⟨false, default⟩) texts = .error e) (rest : List (List (List Char))) :
    stepsOf default k (texts :: rest) = .error e := by
  rw [stepsOf, h]

theorem stepsOf_append (default k : Nat) (bs bs' : List (List (List Char))) :
    stepsOf default k (bs ++ bs') =
      (stepsOf default k bs).bind fun steps => (stepsOf default (k + bs.length) bs').map (steps ++ ·) := by
  induction bs generalizing k with
  | nil =>
    simp only [List.nil_append, stepsOf, Except.bind, List.length_nil, Nat.add_zero]
    cases stepsOf default k bs' <;> rfl
  | cons texts bs ih =>
    rw [List.cons_append]
    cases hr : readTexts (none, ⟨false, default⟩) texts with
    | error e =>
      rw [stepsOf_cons_error hr, stepsOf_cons_error hr]
      rfl
    | ok said =>
      rw [stepsOf_cons hr, stepsOf_cons hr, ih, List.length_cons, Nat.add_right_comm, Nat.add_assoc]
      cases stepsOf default (k + 1) bs with
      | error e => rfl
      | ok steps =>
        simp only [Except.bind, Except.map]
        cases stepsOf default (k + (bs.length + 1)) bs' <;> rfl

/-- A block can be put in the place of another exactly if its step is the same. -/
theorem stepsOf_replace {default k : Nat} {bs rest : List (List (List Char))} {texts : List (List Char)} {steps : List Step}
    (h : stepsOf default k (bs ++ texts :: rest) = .ok steps) :
    ∃ said, readTexts (none, ⟨false, default⟩) texts = .ok said ∧ ∀ texts',
      stepsOf default k (bs ++ texts' :: rest) = .ok steps ↔
        ∃ said', readTexts (none, ⟨false, default⟩) texts' = .ok said' ∧
          stepOf (k + bs.length) said' = stepOf (k + bs.length) said := by
  rw [stepsOf_append] at h
  cases hbs : stepsOf default k bs with
  | error e =>
    rw [hbs] at h
    cases h
  | ok first =>
    rw [hbs] at h
    simp only [Except.bind] at h
    cases hsaid : readTexts (none, ⟨false, default⟩) texts with
    | error e =>
      rw [stepsOf_cons_error hsaid] at h
      cases h
    | ok said =>
      rw [stepsOf_cons hsaid] at h
      cases hrest : stepsOf default (k + bs.length + 1) rest with
      | error e =>
        rw [hrest] at h
        cases h
      | ok more =>
        rw [hrest] at h
        cases h
        refine ⟨said, rfl, fun texts' => ?_⟩
        rw [stepsOf_append, hbs]
        simp only [Except.bind]
        cases hsaid' : readTexts (none, ⟨false, default⟩) texts' with
        | error e =>
          rw [stepsOf_cons_error hsaid']
          simp [Except.map]
        | ok said' =>
          rw [stepsOf_cons hsaid', hrest]
          simp [Except.map]

theorem compileBlocks_steps (default k : Nat) (bs : List Block) :
    (compileBlocks default k bs).map Prod.fst = stepsOf default k (bs.map Block.texts) := by
  induction bs generalizing k with
  | nil => rfl
  | cons b bs ih =>
    have hsaid : readTexts (none, ⟨false, default⟩) b.texts = (readLines ⟨none, ⟨false, default⟩, []⟩ b.lines).map Draft.said :=
      (readLines_said ⟨none, ⟨false, default⟩, []⟩ b.lines).symm
    have hcompile := Block.compile_eq default k b
    rw [List.map_cons]
    cases hd : readLines ⟨none, ⟨false, default⟩, []⟩ b.lines with
    | error e =>
      rw [hd] at hsaid hcompile
      rw [compileBlocks_cons_error hcompile, stepsOf_cons_error hsaid]
      rfl
    | ok d =>
      rw [hd] at hsaid hcompile
      rw [compileBlocks_cons hcompile, stepsOf_cons hsaid, ← ih]
      cases compileBlocks default (k + 1) bs <;> rfl

theorem compileWith_steps_iff {default : Nat} {script : String} {steps : List Step} :
    (∃ c, compileWith default script = .ok c ∧ c.steps = steps) ↔
      stepsOf default 1 ((blocksOf script).map Block.texts) = .ok steps := by
  rw [← compileBlocks_steps, compileWith_eq]
  cases compileBlocks default 1 (blocksOf script) with
  | error e => simp [Except.map]
  | ok r => simp [Except.map]

/-! ## Lines within a block -/

theorem exists_isLastWith {p : Line → Prop} {ls : List Line} (h : ∃ l ∈ ls, p l) : ∃ l, IsLastWith p ls l := by
  induction ls with
  | nil => simp at h
  | cons l ls ih =>
    by_cases hrest : ∃ l ∈ ls, p l
    · obtain ⟨l', before, after, rfl, hl'⟩ := ih hrest
      exact ⟨l', l :: before, after, rfl, hl'⟩
    · have hl : p l := by simpa [hrest] using h
      exact ⟨l, [], ls, rfl, hl, fun l' hl' hp => hrest ⟨l', hl', hp⟩⟩

theorem texts_shifted (n : Nat) (b : Block) : (b.shifted n).texts = b.texts := by
  simp [Block.texts, Block.lines, Block.shifted, Function.comp_def]

theorem map_text_numberedFrom (k : Nat) (ls : List (List Char)) : (numberedFrom k ls).map Line.text = ls.map trim := by
  induction ls generalizing k with
  | nil => rfl
  | cons l ls ih => rw [numberedFrom, List.map_cons, List.map_cons, ih]

/-- The texts of the blocks do not depend on where the numbers of lines begin. -/
theorem texts_splitBlocks (n k : Nat) (ls : List (List Char)) :
    (splitBlocks (numberedFrom (k + n) ls)).2.map Block.texts = (splitBlocks (numberedFrom k ls)).2.map Block.texts := by
  rw [numberedFrom_shifted, splitBlocks_shifted, List.map_map]
  exact List.map_congr_left fun b _ => texts_shifted n b

theorem texts_free (k : Nat) (ls : List (List Char)) :
    (splitBlocks (numberedFrom k ls)).1.map Line.text = (ls.map trim).takeWhile fun text => !isMarker text := by
  rw [splitBlocks_fst, ← map_text_numberedFrom k ls, List.takeWhile_map]
  rfl

/-- Lines that follow a marker belong to the last block before them, up to the
next marker. -/
theorem texts_within {before : List (List Char)} (h : ∃ l ∈ before, isMarker (trim l) = true) :
    ∃ bs texts, ∀ {script : String} {body rest : List (List Char)}, lines script.toList = before ++ (body ++ rest) →
      (∀ l ∈ body, isMarker (trim l) = false) → (blocksOf script).map Block.texts =
        bs ++ (texts ++ (body.map trim ++ (rest.map trim).takeWhile fun text => !isMarker text)) ::
          (splitBlocks (numberedFrom 1 rest)).2.map Block.texts := by
  have hmem : ∃ l ∈ numberedFrom 1 before, isMarker l.text = true := by
    obtain ⟨l, hl, hm⟩ := h
    have ht : trim l ∈ (numberedFrom 1 before).map Line.text := by
      rw [map_text_numberedFrom]
      exact List.mem_map_of_mem hl
    obtain ⟨l', hl', he⟩ := List.mem_map.mp ht
    exact ⟨l', hl', he ▸ hm⟩
  -- the block is that of the last marker before
  obtain ⟨⟨number, text⟩, first, free, hcut, hm, hfree⟩ := exists_isLastWith hmem
  refine ⟨(splitBlocks first).2.map Block.texts, text :: free.map Line.text, fun {script body rest} hscript hbody => ?_⟩
  have hnumbered : numberedFrom 1 (before ++ (body ++ rest)) = first ++ ⟨number, text⟩ ::
      ((free ++ numberedFrom (1 + before.length) body) ++ numberedFrom (1 + (before.length + body.length)) rest) := by
    simp only [numberedFrom_append, hcut, List.append_assoc, List.cons_append, Nat.add_assoc]
  have hplain : ∀ l ∈ free ++ numberedFrom (1 + before.length) body, isMarker l.text = false := by
    intro l hl
    rcases List.mem_append.mp hl with hl | hl
    · simpa using hfree l hl
    · have ht : l.text ∈ body.map trim := by
        rw [← map_text_numberedFrom (1 + before.length)]
        exact List.mem_map_of_mem hl
      obtain ⟨raw, hraw, he⟩ := List.mem_map.mp ht
      exact he ▸ hbody raw hraw
  rw [blocksOf, hscript, hnumbered, splitBlocks_append hm, splitBlocks_marker hm, splitBlocks_free hplain, List.map_append, List.map_cons,
    texts_splitBlocks]
  simp only [Block.texts, Block.lines, List.map_cons, List.map_append, map_text_numberedFrom, texts_free, List.append_assoc,
    List.cons_append]

end BrowserPilot.Script
