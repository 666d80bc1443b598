import BrowserPilot.Proofs.Text.Decimal
import BrowserPilot.Script.Compile

/-!
# Compiled steps

The steps of a script are numbered in the order of its markers and named by
their numbers, so that they always make a sequence that can be run.
-/

namespace BrowserPilot

def Script.stepId (ordinal : Nat) : String := "step-" ++ toString ordinal

theorem Script.stepId_injective {m n : Nat} (h : stepId m = stepId n) : m = n := by
  apply Text.toString_nat_injective
  simpa [stepId] using h

def Script.Numbered : Nat → List Step → Prop
  | _, [] => True
  | k, s :: rest => s.id = stepId k ∧ s.ordinal = k ∧ s.fallbacks = [] ∧ Numbered (k + 1) rest

namespace Script

/-! ## Lines, blocks and scripts -/

theorem numberedFrom_append (k : Nat) (ls ls' : List (List Char)) :
    numberedFrom k (ls ++ ls') = numberedFrom k ls ++ numberedFrom (k + ls.length) ls' := by
  induction ls generalizing k with
  | nil => rfl
  | cons l ls ih =>
    rw [List.cons_append, numberedFrom, ih, numberedFrom, List.cons_append, List.length_cons, Nat.add_right_comm, Nat.add_assoc]

theorem readLines_cons {d : Draft} {k : Nat} {text : List Char} {r : LineReading} (h : readLine text = .ok r)
    (rest : List Line) : readLines d (⟨k, text⟩ :: rest) = readLines (d.add k text r) rest := by
  rw [readLines, h]

theorem readLines_cons_error {d : Draft} {k : Nat} {text : List Char} {e : NumberTooLong} (h : readLine text = .error e)
    (rest : List Line) : readLines d (⟨k, text⟩ :: rest) = .error e := by
  rw [readLines, h]

theorem splitBlocks_marker {k : Nat} {text : List Char} (h : isMarker text = true) (rest : List Line) :
    splitBlocks (⟨k, text⟩ :: rest) = ([], ⟨⟨k, text⟩, (splitBlocks rest).1⟩ :: (splitBlocks rest).2) := by
  simp only [splitBlocks, h, if_true]

theorem splitBlocks_free {ls : List Line} (h : ∀ l ∈ ls, isMarker l.text = false) (rest : List Line) :
    splitBlocks (ls ++ rest) = (ls ++ (splitBlocks rest).1, (splitBlocks rest).2) := by
  induction ls with
  | nil => rfl
  | cons l ls ih =>
    have hl : isMarker l.text = false := h l (by simp)
    have ih := ih fun l' hl' => h l' (by simp [hl'])
    simp only [List.cons_append, splitBlocks, ih, hl, Bool.false_eq_true, if_false]

theorem compileBlocks_cons {b : Block} {n index : Nat} {s : Step} {warnings : List Warning}
    (h : b.compile n index = .ok (s, warnings)) (rest : List Block) :
    compileBlocks n index (b :: rest) =
      (compileBlocks n (index + 1) rest).map fun r => (s :: r.1, warnings ++ r.2) := by
  rw [compileBlocks, h]

theorem compileBlocks_cons_error {b : Block} {n index : Nat} {e : NumberTooLong} (h : b.compile n index = .error e)
    (rest : List Block) : compileBlocks n index (b :: rest) = .error e := by
  rw [compileBlocks, h]

theorem Block.compile_of_readLines {marker : Line} {body : List Line} {n index : Nat} {a : Action} {p : ErrorPolicy}
    (h : readLines ⟨none, ⟨false, n⟩, []⟩ (marker :: body) = .ok ⟨some a, p, []⟩) :
    Block.compile n index ⟨marker, body⟩ = .ok ({ id := stepId index, ordinal := index, action := a, policy := p }, []) := by
  rw [Block.compile, h]
  rfl

theorem compile_eq_compileWith {n : Int} (h : 0 ≤ n) (script : String) : compile n script = compileWith n.toNat script := by
  rw [compile, retryDefault, if_neg (by omega)]
  rfl

/-! ## Numbered steps -/

theorem Block.compile_ok {retries k : Nat} {b : Block} {r : Step × List Warning} (h : b.compile retries k = .ok r) :
    ∃ d, readLines ⟨none, ⟨false, retries⟩, []⟩ (b.marker :: b.body) = .ok d ∧
      r.1 = { id := stepId k, ordinal := k, action := d.action.getD (.navigate ""), policy := d.policy } ∧
        r.2 = if d.action.isNone then d.warnings ++ [⟨b.marker.number, .noAction k⟩] else d.warnings := by
  unfold Block.compile at h
  cases hd : readLines ⟨none, ⟨false, retries⟩, []⟩ (b.marker :: b.body) with
  | error e =>
    rw [hd] at h
    cases h
  | ok d =>
    rw [hd] at h
    cases h
    exact ⟨d, rfl, rfl, rfl⟩

theorem compileBlocks_cons_ok {retries k : Nat} {b : Block} {rest : List Block} {r : List Step × List Warning}
    (h : compileBlocks retries k (b :: rest) = .ok r) :
    ∃ step warnings more, b.compile retries k = .ok (step, warnings) ∧ compileBlocks retries (k + 1) rest = .ok more ∧
      r = (step :: more.1, warnings ++ more.2) := by
  unfold compileBlocks at h
  cases hb : b.compile retries k with
  | error e =>
    rw [hb] at h
    cases h
  | ok x =>
    rw [hb] at h
    cases hr : compileBlocks retries (k + 1) rest with
    | error e =>
      rw [hr] at h
      cases h
    | ok more =>
      rw [hr] at h
      exact ⟨x.1, x.2, more, rfl, rfl, (Except.ok.inj h).symm⟩

theorem compileBlocks_numbered (retries : Nat) : ∀ (bs : List Block) (k : Nat) {r : List Step × List Warning},
    compileBlocks retries k bs = .ok r → Numbered k r.1
  | [], k, r, h => by
    cases h
    trivial
  | b :: rest, k, r, h => by
    obtain ⟨step, warnings, more, hb, hr, rfl⟩ := compileBlocks_cons_ok h
    obtain ⟨d, _, hs, _⟩ := Block.compile_ok hb
    refine ⟨?_, ?_, ?_, compileBlocks_numbered retries rest (k + 1) hr⟩
    all_goals rw [show step = _ from hs]

theorem sequenceFrom_numbered : ∀ (steps : List Step) (k : Nat) (seen : List String) (previous : Nat),
    Numbered k steps → previous < k → (∀ id ∈ seen, ∃ j < k, id = stepId j) →
      Step.sequenceFrom seen previous steps = .ok ()
  | [], _, _, _, _, _, _ => rfl
  | s :: rest, k, seen, previous, ⟨hid, hord, _, hrest⟩, hp, hseen => by
    have hnew : seen.contains s.id = false := by
      rw [Bool.eq_false_iff]
      intro hc
      obtain ⟨j, hj, he⟩ := hseen s.id (by simpa using hc)
      have := stepId_injective (he.symm.trans hid)
      omega
    unfold Step.sequenceFrom
    rw [hnew, if_neg Bool.false_ne_true, if_neg (by omega)]
    refine sequenceFrom_numbered rest (k + 1) _ _ hrest (by omega) ?_
    intro id hmem
    rcases List.mem_cons.mp hmem with rfl | hmem
    · exact ⟨k, by omega, hid⟩
    · obtain ⟨j, hj, he⟩ := hseen id hmem
      exact ⟨j, by omega, he⟩

theorem compileWith_numbered {retries : Nat} {script : String} {c : Compiled} (h : compileWith retries script = .ok c) :
    Numbered 1 c.steps := by
  unfold compileWith at h
  split at h
  · rename_i steps warnings hb
    cases h
    exact compileBlocks_numbered retries _ 1 hb
  · cases h

/-- The steps of a script can be run in the order they are in. -/
theorem compileWith_checkSequence {retries : Nat} {script : String} {c : Compiled} (h : compileWith retries script = .ok c) :
    Step.checkSequence c.steps = .ok () :=
  sequenceFrom_numbered c.steps 1 [] 0 (compileWith_numbered h) Nat.zero_lt_one fun _ hid => nomatch hid

end Script

end BrowserPilot
