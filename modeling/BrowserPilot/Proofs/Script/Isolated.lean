import BrowserPilot.Proofs.Script.Rendered

/-!
# Rendered steps do not touch each other

Whatever the texts of the steps hold, as long as they do not break a line:
quotes, calls, marks and assignments in a text reach its own step only. The
step compiled at a place depends on the step rendered there and on nothing else.
-/

namespace BrowserPilot.Script

theorem reread_id {index : Nat} {s s' : Step} (h : reread index s = .ok s') : s'.id = stepId index := by
  unfold reread at h
  cases hn : number (Nat.toDigits 10 s.policy.retries) with
  | error e =>
    rw [hn] at h
    cases h
  | ok retries =>
    rw [hn] at h
    cases hr : readLine (callOf s.action).toList with
    | error e =>
      rw [hr] at h
      cases h
    | ok r =>
      rw [hr] at h
      cases h
      rfl

theorem rereadFrom_cons_ok {index : Nat} {s : Step} {rest more : List Step} (h : rereadFrom index (s :: rest) = .ok more) :
    ∃ s' rest', more = s' :: rest' ∧ reread index s = .ok s' ∧ rereadFrom (index + 1) rest = .ok rest' := by
  rw [rereadFrom] at h
  cases hs : reread index s with
  | error e =>
    rw [hs] at h
    cases h
  | ok s' =>
    rw [hs] at h
    cases hr : rereadFrom (index + 1) rest with
    | error e =>
      rw [hr] at h
      cases h
    | ok rest' =>
      rw [hr] at h
      cases h
      exact ⟨s', rest', rfl, rfl, rfl⟩

theorem rereadFrom_ids {index : Nat} {steps more : List Step} (h : rereadFrom index steps = .ok more) :
    more.map (·.id) = (List.range' index steps.length).map stepId := by
  induction steps generalizing index more with
  | nil =>
    cases h
    rfl
  | cons s rest ih =>
    obtain ⟨s', rest', rfl, hs, hr⟩ := rereadFrom_cons_ok h
    rw [List.map_cons, reread_id hs, ih hr, List.length_cons, List.range'_succ, List.map_cons]

/-- The step at a place is that of the step rendered there. -/
theorem rereadFrom_getElem? {index : Nat} {steps more : List Step} (h : rereadFrom index steps = .ok more) (i : Nat) :
    (more[i]?).map Except.ok = (steps[i]?).map (reread (index + i)) := by
  induction steps generalizing index more i with
  | nil =>
    cases h
    rfl
  | cons s rest ih =>
    obtain ⟨s', rest', rfl, hs, hr⟩ := rereadFrom_cons_ok h
    cases i with
    | zero => simp [hs]
    | succ i =>
      rw [List.getElem?_cons_succ, List.getElem?_cons_succ, ih hr, Nat.add_right_comm, Nat.add_assoc]

theorem compile_render_ok {default : Int} {steps : List Step} {c : Compiled} (h : ∀ s ∈ steps, OnOneLine s)
    (hc : compile default (render steps) = .ok c) : rereadFrom 1 steps = .ok c.steps ∧ c.warnings = [] := by
  by_cases hd : default < 0
  · rw [compile, retryDefault, if_pos hd] at hc
    cases hc
  · rw [compile_eq_compileWith (Int.not_lt.mp hd), compileWith_render_eq h] at hc
    cases hr : rereadFrom 1 steps with
    | error e =>
      rw [hr] at hc
      cases hc
    | ok more =>
      rw [hr] at hc
      cases hc
      exact ⟨rfl, rfl⟩

/-- **Rendered steps do not touch each other.** A script that compiles again has
the steps in their order without a warning, and at every place at which two
such scripts were rendered from the same step they have the same step. -/
theorem compile_render_isolates {default default' : Int} {steps steps' : List Step} {c c' : Compiled}
    (h : ∀ s ∈ steps, OnOneLine s) (h' : ∀ s ∈ steps', OnOneLine s)
    (hc : compile default (render steps) = .ok c) (hc' : compile default' (render steps') = .ok c') :
    (c.steps.length = steps.length ∧ c.steps.map (·.id) = (List.range' 1 steps.length).map stepId ∧ c.warnings = []) ∧
      ∀ i : Nat, steps[i]? = steps'[i]? → c.steps[i]? = c'.steps[i]? := by
  obtain ⟨hr, hw⟩ := compile_render_ok h hc
  obtain ⟨hr', _⟩ := compile_render_ok h' hc'
  have hids := rereadFrom_ids hr
  refine ⟨⟨?_, hids, hw⟩, ?_⟩
  · simpa using congrArg List.length hids
  · intro i hi
    have hsame : (c.steps[i]?).map Except.ok = (c'.steps[i]?).map (Except.ok : Step → Except NumberTooLong Step) := by
      rw [rereadFrom_getElem? hr, rereadFrom_getElem? hr', hi]
    exact Option.map_injective (fun _ _ => Except.ok.inj) hsame

private def hostile : Step := ⟨"a", 1, .type "#q" "'); page.goto('https://x'); retries_step2 = 9; // step 7", [], ⟨false, 1⟩⟩

private def harmless : Step := ⟨"b", 2, .click "# step 3", [], ⟨true, 2⟩⟩

/-- A text that closes its quotes and goes on as a script of its own. -/
theorem compile_render_isolates_hostile : ∃ c c', (∀ s ∈ [hostile, harmless], OnOneLine s) ∧
    (∀ s ∈ [harmless, harmless], OnOneLine s) ∧ compile 3 (render [hostile, harmless]) = .ok c ∧
      compile 0 (render [harmless, harmless]) = .ok c' ∧ c.steps.length = 2 ∧ c.warnings = [] ∧
        c.steps[1]? = some ⟨"step-2", 2, .click "# step 3", [], ⟨true, 2⟩⟩ ∧ c.steps[1]? = c'.steps[1]? := by
  have h : ∀ s ∈ [hostile, harmless], OnOneLine s := by decide
  have h' : ∀ s ∈ [harmless, harmless], OnOneLine s := by decide
  obtain ⟨c, hr, hget⟩ : ∃ c, compile 3 (render [hostile, harmless]) = .ok c ∧
      c.steps[1]? = some ⟨"step-2", 2, .click "# step 3", [], ⟨true, 2⟩⟩ := by
    rw [compile_eq_compileWith (by decide), compileWith_render_eq h]
    exact ⟨_, rfl, rfl⟩
  obtain ⟨c', hr'⟩ : ∃ c', compile 0 (render [harmless, harmless]) = .ok c' := by
    rw [compile_eq_compileWith (by decide), compileWith_render_eq h']
    exact ⟨_, rfl⟩
  obtain ⟨⟨hlen, _, hw⟩, hsame⟩ := compile_render_isolates h h' hr hr'
  exact ⟨c, c', h, h', hr, hr', hlen, hw, hget, hsame 1 rfl⟩

end BrowserPilot.Script
