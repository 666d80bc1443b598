import BrowserPilot.Proofs.Script.RoundTrip

/-!
# Which steps a script can hold

The values of a step are pasted into its script as they are. So whether a step
is given back is a question about its values: some break the line they stand
in, and some read like a part of a script themselves.
-/

namespace BrowserPilot

/-- The parameters that have no spelling have their default. -/
def Action.IsSpelled : Action → Prop
  | .wait .time _ selector => selector = ""
  | .wait .selector ms _ => ms = 0
  | .scroll _ direction => direction = .down
  | _ => True

def Action.number? : Action → Option Nat
  | .wait .time ms _ => some ms
  | .scroll (.pixels n) _ => some n
  | _ => none

namespace Script

open Text

def Unquoted (s : String) : Prop := ∀ c ∈ s.toList, isQuote c = false

instance (s : String) : Decidable (Unquoted s) :=
  decidable_of_iff (s.toList.all (fun c => !isQuote c) = true) (by simp [Unquoted])

theorem isWritten_iff {a : Action} : IsWritten a ↔ a.IsSpelled ∧ ∀ n, a.number? = some n → n < 10 ^ digitLimit := by
  cases a with
  | wait mode ms selector =>
    cases mode with
    | time => simp [IsWritten, Action.IsSpelled, Action.number?, and_comm]
    | selector => simp [IsWritten, Action.IsSpelled, Action.number?]
  | scroll target direction =>
    cases target with
    | bottom => simp [IsWritten, Action.IsSpelled, Action.number?]
    | pixels n => simp [IsWritten, Action.IsSpelled, Action.number?, and_comm]
  | _ => simp [IsWritten, Action.IsSpelled, Action.number?]

/-- A step whose values leave its script as it was meant. -/
structure IsFaithful (s : Step) : Prop where
  oneLine : OnOneLine s
  /-- No text has a call of an idiom that counts before the step's own. -/
  inert : ∀ x ∈ s.action.texts, ∀ j ∈ laterCalls s.action, j.opening? x.toList = none
  /-- The texts do not say that errors are ignored, unless they are. -/
  unmarked : (∃ x ∈ s.action.texts, hasWarning x.toList = true) → (∃ x ∈ s.action.texts, hasSkip x.toList = true) →
    s.policy.ignoresErrors = true
  /-- An assignment to a retry counter in a text assigns the step's own retries. -/
  retries : writtenRetries s = s.policy.retries
  number : ∀ n, s.action.number? = some n → n < 10 ^ digitLimit
  renderable : IsRenderable s

theorem isFaithful_iff {s : Step} (hs : s.action.IsSpelled) (hq : ∀ x ∈ s.action.texts, Unquoted x) :
    IsFaithful s ↔ Recorded s.action s.policy ∧ IsRenderable s ∧ writtenRetries s = s.policy.retries := by
  constructor
  · intro h
    refine ⟨⟨isWritten_iff.mpr ⟨hs, h.number⟩, ?_, h.inert, h.unmarked⟩, h.renderable, h.retries⟩
    exact fun x hx c hc => ⟨hq x hx c hc, h.oneLine x hx c hc⟩
  · rintro ⟨hrec, hr, hw⟩
    exact ⟨hrec.onOneLine, hrec.last, hrec.marked, hw, (isWritten_iff.mp hrec.written).2, hr⟩

/-- A step and one compiled from its script that does the same. -/
def SameWork (s s' : Step) : Prop := s'.action = s.action ∧ s'.policy = s.policy

section
variable {again : Int} {steps : List Step} {c : Compiled}

theorem SameWork.exists_both {R : Step → Step → Prop} {more : List Step} (h : List.Forall₂ SameWork steps more)
    (hR : List.Forall₂ R steps more) : ∀ s ∈ steps, ∃ s' ∈ more, SameWork s s' ∧ R s s' := by
  induction h with
  | nil => simp
  | cons hs _ ih =>
    obtain ⟨hr, hrest⟩ := List.forall₂_cons.mp hR
    intro s hmem
    rcases List.mem_cons.mp hmem with rfl | hmem
    · exact ⟨_, by simp, hs, hr⟩
    · obtain ⟨s', hs', hboth⟩ := ih hrest s hmem
      exact ⟨s', by simp [hs'], hboth⟩

theorem recorded_of_sameWork (hc : compile again (render steps) = .ok c) (h : List.Forall₂ SameWork steps c.steps) :
    ∀ s ∈ steps, Recorded s.action s.policy := by
  intro s hs
  obtain ⟨s', hs', ⟨ha, hp⟩, _⟩ := SameWork.exists_both h h s hs
  have hrec := compile_recorded hc s' hs'
  rw [ha, hp] at hrec
  exact hrec

theorem renderable_of_sameWork (ha : 0 ≤ again) (hc : compile again (render steps) = .ok c)
    (h : List.Forall₂ SameWork steps c.steps) :
    ∀ s ∈ steps, Recorded s.action s.policy ∧ IsRenderable s ∧ writtenRetries s = s.policy.retries := by
  have hrec := recorded_of_sameWork hc h
  rw [compile_eq_compileWith ha] at hc
  have hshort : ∀ s ∈ steps, IsRenderable s := by
    intro s hs
    by_contra hn
    obtain ⟨digits, _, he⟩ := compileWith_render_error hrec ⟨s, hs, hn⟩ again.toNat
    cases he.symm.trans hc
  obtain ⟨c', hc', _, hrel⟩ := compileWith_render hrec hshort again.toNat
  cases hc'.symm.trans hc
  intro s hs
  obtain ⟨s', _, ⟨_, hp⟩, hr⟩ := SameWork.exists_both h hrel s hs
  exact ⟨hrec s hs, hshort s hs, hr.retries.symm.trans (congrArg ErrorPolicy.retries hp)⟩

theorem Reread.sameWork {s s' : Step} (h : Reread s s') (hr : writtenRetries s = s.policy.retries) : SameWork s s' := by
  refine ⟨h.action, ?_⟩
  calc s'.policy = ⟨s'.policy.ignoresErrors, s'.policy.retries⟩ := rfl
    _ = ⟨s.policy.ignoresErrors, s.policy.retries⟩ := by rw [h.ignoresErrors, h.retries, hr]

theorem Reread.all_sameWork {more : List Step} (h : List.Forall₂ Reread steps more)
    (hr : ∀ s ∈ steps, writtenRetries s = s.policy.retries) : List.Forall₂ SameWork steps more := by
  induction h with
  | nil => exact .nil
  | cons hs _ ih =>
    obtain ⟨hhead, htail⟩ := List.forall_mem_cons.mp hr
    exact .cons (hs.sameWork hhead) (ih htail)

theorem sameWork_of_renderable (ha : 0 ≤ again)
    (h : ∀ s ∈ steps, Recorded s.action s.policy ∧ IsRenderable s ∧ writtenRetries s = s.policy.retries) :
    ∃ c, compile again (render steps) = .ok c ∧ c.warnings = [] ∧ List.Forall₂ SameWork steps c.steps := by
  obtain ⟨c, hc, hw, hrel⟩ := compileWith_render (fun s hs => (h s hs).1) (fun s hs => (h s hs).2.1) again.toNat
  refine ⟨c, (compile_eq_compileWith ha _).trans hc, hw, ?_⟩
  exact Reread.all_sameWork hrel fun s hs => (h s hs).2.2

/-- **Which steps are given back.** Steps whose parameters all have a spelling,
without quotes in their texts, come back from their script with their actions
and policies, and without a warning, exactly if every one of them is faithful. -/
theorem compile_render_faithful (ha : 0 ≤ again) (hs : ∀ s ∈ steps, s.action.IsSpelled)
    (hq : ∀ s ∈ steps, ∀ x ∈ s.action.texts, Unquoted x) :
    (∃ c, compile again (render steps) = .ok c ∧ c.warnings = [] ∧ List.Forall₂ SameWork steps c.steps) ↔
      ∀ s ∈ steps, IsFaithful s := by
  constructor
  · rintro ⟨c, hc, _, hsame⟩ s hmem
    exact (isFaithful_iff (hs s hmem) (hq s hmem)).mpr (renderable_of_sameWork ha hc hsame s hmem)
  · intro h
    exact sameWork_of_renderable ha fun s hmem => (isFaithful_iff (hs s hmem) (hq s hmem)).mp (h s hmem)

end

theorem IsFaithful.of_quiet {s : Step} (hl : OnOneLine s) (hx : ∀ x ∈ s.action.texts, Quiet 0 x.toList)
    (hn : ∀ n, s.action.number? = some n → n < 10 ^ digitLimit) (hr : s.policy.retries < 10 ^ digitLimit) : IsFaithful s where
  oneLine := hl
  inert := fun x h j hj => (hx x h).later j (List.drop_subset_drop_left idioms (by omega) hj)
  unmarked := by
    rintro ⟨x, h, hw⟩ _
    rw [(hx x h).warning] at hw
    cases hw
  retries := writtenRetries_eq fun x h => (hx x h).retry
  number := hn
  renderable := by
    have htime : hiddenTime s.action = none := List.findSome?_eq_none_iff.mpr fun x h => (hx x h).time (by decide)
    have hretries : hiddenRetries s.action = none := List.findSome?_eq_none_iff.mpr fun x h => (hx x h).retry
    refine ⟨hr, fun digits hd => ?_⟩
    rw [htime, hretries] at hd
    rcases hd with hd | hd
    · cases hd
    · cases hd

private def shopping : List Step :=
  [⟨"open", 1, .navigate "https://shop.test/?q=1#top", [], ⟨false, 1⟩⟩, ⟨"search", 2, .type "#q" "red shoes", [], {}⟩,
    ⟨"rest", 3, .wait .time 1200 "", [], {}⟩, ⟨"down", 4, .scroll (.pixels 400) .down, [], {}⟩,
    ⟨"keep", 5, .screenshot true, [], ⟨true, 0⟩⟩]

theorem compile_render_faithful_shopping :
    (∀ s ∈ shopping, s.action.IsSpelled) ∧ (∀ s ∈ shopping, ∀ x ∈ s.action.texts, Unquoted x) ∧
      (∃ c, compile 3 (render shopping) = .ok c ∧ c.warnings = [] ∧ List.Forall₂ SameWork shopping c.steps) := by
  have hs : ∀ s ∈ shopping, s.action.IsSpelled := by simp [shopping, Action.IsSpelled]
  have hq : ∀ s ∈ shopping, ∀ x ∈ s.action.texts, Unquoted x := by decide
  refine ⟨hs, hq, (compile_render_faithful (by decide) hs hq).mpr fun s h => ?_⟩
  have hline : ∀ s ∈ shopping, OnOneLine s := by decide
  have hlater : ∀ s ∈ shopping, ∀ x ∈ s.action.texts, ∀ j ∈ idioms.drop 1, j.opening? x.toList = none := by decide
  have hrest : ∀ s ∈ shopping, ∀ x ∈ s.action.texts, timeDigits? x.toList = none ∧ retryDigits? x.toList = none ∧
      hasWarning x.toList = false := by decide
  have hsmall : ∀ s ∈ shopping, s.policy.retries < 10 ^ 4 ∧ ∀ n ∈ s.action.number?, n < 10 ^ 4 := by decide
  have hlimit {n : Nat} (hn : n < 10 ^ 4) : n < 10 ^ digitLimit :=
    Nat.lt_of_lt_of_le hn (Nat.pow_le_pow_right (by decide) (by decide))
  refine IsFaithful.of_quiet (hline s h) (fun x hx => ?_) (fun n hn => hlimit ((hsmall s h).2 n hn)) (hlimit (hsmall s h).1)
  obtain ⟨ht, hr, hw⟩ := hrest s h x hx
  exact ⟨hlater s h x hx, fun _ => ht, hr, hw⟩

private def note : Step := ⟨"step-1", 1, .type "#note" "first\nsecond", [], {}⟩

/-- A text of two lines is not given back. -/
theorem compile_render_note : note.fallbacks = [] ∧ note.action.IsSpelled ∧
    (∀ x ∈ note.action.texts, Unquoted x) ∧
      ¬∃ c, compile 3 (render [note]) = .ok c ∧ c.warnings = [] ∧ List.Forall₂ SameWork [note] c.steps := by
  refine ⟨rfl, trivial, by decide, ?_⟩
  rintro ⟨c, hc, _, hsame⟩
  have hplain := (recorded_of_sameWork hc hsame note (by simp)).onOneLine
  have hbreak : ¬Unbroken "first\nsecond" := by decide
  exact hbreak (hplain _ (by simp [note, Action.texts]))

end Script

end BrowserPilot
