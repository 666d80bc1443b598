import BrowserPilot.Proofs.Monitor.Lasting
import BrowserPilot.Proofs.Numeric.Order

/-!
# How far a run has come

At any time a run has settled the first steps of its plan and touched at most
the one after them. It never goes back.
-/

namespace BrowserPilot

/-! ## Sessions with their first steps settled -/

/-- A session that has settled the first `k` steps and has at most the step at
`k` in hand. -/
structure Session.HasSettled (steps : List Step) (k : Nat) (s : Session) : Prop where
  bound : k ≤ steps.length
  length : s.steps.length = steps.length
  total : s.totalSteps = steps.length
  settled : ∀ i < k, ∃ st, s.steps[i]? = some st ∧ st.isTerminal = true
  untouched : ∀ i > k, s.steps[i]? = steps[i]?.map StepStatus.ofStep
  completed : s.completedSteps = (s.steps.take k).countP fun st => st.state.hasPassed
  failed : s.failedSteps = (s.steps.take k).countP fun st => st.state == .failed
  pending : s.firstPending? = if k < steps.length then some k else none

namespace Session

variable {s s' : Session} {steps pre post : List Step} {done rest : List StepStatus} {k k' : Nat}

theorem Cut.firstPending (h : s.Cut pre post done rest) :
    s.firstPending? = if done.length < s.steps.length then some done.length else none := by
  have hdone : done.findIdx? (fun st => !st.isTerminal) = none :=
    List.findIdx?_eq_none_iff.mpr fun st hst => by simp [h.terminal st hst]
  rw [firstPending?, h.steps, List.findIdx?_append, hdone]
  cases rest with
  | nil => simp
  | cons st rest =>
    have hst := StepStatus.not_final_of_isPending (h.pending st (by simp))
    simp [List.findIdx?_cons, StepStatus.isTerminal, hst]

theorem Cut.hasSettled (h : s.Cut pre post done rest) (hp : steps = pre ++ post)
    (hrest : rest.tail = post.tail.map StepStatus.ofStep) : s.HasSettled steps done.length := by
  have hd : pre.length = done.length := h.settled.length_eq
  have hr : post.length = rest.length := h.unsettled.length_eq
  have hlen : s.steps.length = steps.length := by simp [h.steps, hp, hd, hr]
  have htake : s.steps.take done.length = done := by simp [h.steps]
  refine ⟨?_, hlen, ?_, ?_, ?_, ?_, ?_, ?_⟩
  · simp [hp, hd]
  · rw [h.total, hp, List.length_append]
  · intro i hi
    refine ⟨done[i], ?_, h.terminal _ (List.getElem_mem hi)⟩
    rw [h.steps, List.getElem?_append_left hi, List.getElem?_eq_getElem hi]
  · intro i hi
    obtain ⟨j, rfl⟩ : ∃ j, i = done.length + (j + 1) := ⟨i - done.length - 1, by omega⟩
    rw [h.steps, hp, List.getElem?_append_right (by omega), List.getElem?_append_right (by omega), hd,
      Nat.add_sub_cancel_left, ← List.getElem?_tail, ← List.getElem?_tail, hrest, List.getElem?_map]
  · rw [htake]
    exact h.completed
  · rw [htake]
    exact h.failed
  · rw [h.firstPending, hlen]

theorem HasSettled.count (h : s.HasSettled steps k) : s.completedSteps + s.failedSteps = k := by
  have hlen : (s.steps.take k).length = k := by
    rw [List.length_take, h.length]
    exact Nat.min_eq_left h.bound
  have hall : ∀ st ∈ s.steps.take k, st.isTerminal = true := by
    intro st hst
    obtain ⟨i, hi, rfl⟩ := List.getElem_of_mem hst
    obtain ⟨st, hst, ht⟩ := h.settled i (hlen ▸ hi)
    rw [List.getElem_take, (List.getElem?_eq_some_iff.mp hst).2]
    exact ht
  rw [h.completed, h.failed, StepStatus.countP_settled hall, hlen]

theorem HasSettled.open_at (h : s.HasSettled steps k) {st : StepStatus} (hst : s.steps[k]? = some st) :
    st.isTerminal = false := by
  have hk : k < steps.length := h.length ▸ (List.getElem?_eq_some_iff.mp hst).1
  have hp := h.pending
  rw [if_pos hk] at hp
  have hopen := List.of_findIdx?_eq_some hp
  rw [hst] at hopen
  simpa using hopen

/-- As long as final records are kept, the first open step does not move back. -/
theorem HasSettled.mono (h : s.HasSettled steps k) (h' : s'.HasSettled steps k') (hkeep : s.KeepsFinal s') : k ≤ k' := by
  by_contra hlt
  obtain ⟨st, hst, ht⟩ := h.settled k' (by omega)
  have hopen := h'.open_at (hkeep k' st hst (StepStatus.final_of_isTerminal ht))
  rw [ht] at hopen
  cases hopen

/-! ## Progress -/

theorem progress_eq (h : s.totalSteps ≠ 0) :
    s.progress = Binary64.percentage (s.completedSteps + s.failedSteps) s.totalSteps := by
  have hsum : (s.completedSteps : Int) + s.failedSteps = ((s.completedSteps + s.failedSteps : Nat) : Int) := by simp
  rw [progress, if_neg h, Binary64.ofRatio, Binary64.percentage, hsum, Int.natAbs_natCast,
    decide_eq_false (Int.not_lt.mpr (Int.natCast_nonneg _))]

theorem HasSettled.progress_eq (h : s.HasSettled steps k) (hs : steps ≠ []) :
    s.progress = Binary64.percentage k steps.length := by
  have ht : s.totalSteps ≠ 0 := by simp [h.total, hs]
  rw [Session.progress_eq ht, h.count, h.total]

theorem HasSettled.progress_bounds (h : s.HasSettled steps k) :
    s.progress.IsNonneg ∧ s.progress.le (.ofNat 100) = true := by
  by_cases hs : steps = []
  · subst hs
    have ht : s.totalSteps = 0 := h.total
    rw [progress, if_pos ht]
    exact ⟨Binary64.isNonneg_ofNat _, by split <;> decide +kernel⟩
  · rw [h.progress_eq hs]
    exact ⟨Binary64.isNonneg_percentage _ _, Binary64.percentage_le (List.length_pos_iff.mpr hs) h.bound⟩

theorem HasSettled.progress_mono (h : s.HasSettled steps k) (h' : s'.HasSettled steps k') (hkeep : s.KeepsFinal s')
    (hterm : s.isTerminal = true → s'.isTerminal = true) : s.progress.le s'.progress = true := by
  by_cases hs : steps = []
  · subst hs
    have ht : s.totalSteps = 0 := h.total
    have ht' : s'.totalSteps = 0 := h'.total
    rw [progress, if_pos ht, progress, if_pos ht']
    cases hb : s.isTerminal with
    | true =>
      rw [hterm hb]
      decide +kernel
    | false => cases s'.isTerminal <;> decide +kernel
  · rw [h.progress_eq hs, h'.progress_eq hs]
    exact Binary64.percentage_mono (List.length_pos_iff.mpr hs) (h.mono h' hkeep)

end Session

namespace Monitor

section
variable {m : Monitor} {p : Plan} {c : Control}

theorem not_paused_of_standsAt {s : Session} {b : Bool} (h : s.StandsAt .running b) : s.state ≠ .paused := by
  rcases h with ⟨h, _⟩ | ⟨h, _⟩ <;> rw [h] <;> nofun

theorem Inv.cut (h : m.Inv p c) : ∃ pre post done rest, p.steps = pre ++ post ∧ m.session.Cut pre post done rest ∧
    rest.tail = post.tail.map StepStatus.ofStep ∧ (m.session.state = .paused → rest = post.map StepStatus.ofStep) := by
  have hph := h.phase
  cases hphase : m.phase with
  | ready =>
    rw [hphase] at hph
    exact ⟨[], p.steps, [], _, rfl, hph.2.2, List.map_tail.symm, fun _ => rfl⟩
  | parked i woken =>
    rw [hphase] at hph
    obtain ⟨_, pre, post, done, hpost, _, hcut⟩ := hph
    exact ⟨pre, post, done, _, hpost, hcut, List.map_tail.symm, fun _ => rfl⟩
  | inFlight a o | inGrace a o expired =>
    rw [hphase] at hph
    obtain ⟨hs, step, st, _, ⟨pre, post, done, hpost, _, hcut⟩, _⟩ := hph
    exact ⟨pre, step :: post, done, _, hpost, hcut, rfl, fun hp => absurd hp (not_paused_of_standsAt hs)⟩
  | backingOff a slept =>
    rw [hphase] at hph
    obtain ⟨hs, step, st, _, _, _, ⟨pre, post, done, hpost, _, hcut⟩, _⟩ := hph
    exact ⟨pre, step :: post, done, _, hpost, hcut, rfl, fun hp => absurd hp (not_paused_of_standsAt hs)⟩
  | closing =>
    rw [hphase] at hph
    exact ⟨p.steps, [], m.session.steps, [], (List.append_nil _).symm, hph.2.cut, rfl, fun _ => rfl⟩
  | finished =>
    rw [hphase] at hph
    exact ⟨p.steps, [], m.session.steps, [], (List.append_nil _).symm, hph.cut, rfl, fun _ => rfl⟩
  | raised f =>
    rw [hphase] at hph
    exact hph.elim

theorem Inv.isOver (signals : List (Moment × Signal)) : ∀ {m : Monitor} {c : Control}, m.Inv p c →
    (∀ x ∈ signals, x.2.isOfRun = true) → (m.receiveAll signals).phase = .finished →
      ∃ b, (m.receiveAll signals).session.IsOver p b ∧ (c.stopped = true → b = true) := by
  induction signals with
  | nil =>
    intro m c h _ hfin
    have hph := h.phase
    rw [show m.phase = .finished from hfin] at hph
    exact ⟨c.stopped, hph, id⟩
  | cons x signals ih =>
    intro m c h hs hfin
    by_cases hph : m.phase = .finished
    · have hover := h.phase
      rw [hph] at hover
      rw [(receiveAll_over (x :: signals) hover.isTerminal hph).1]
      exact ⟨c.stopped, hover, id⟩
    · have hx := receive_inv x.1 h hph (hs x (by simp))
      obtain ⟨b, hover, hb⟩ := ih hx (fun y hy => hs y (by simp [hy])) hfin
      refine ⟨b, hover, fun hst => hb ?_⟩
      rw [Control.after_stopped, hst, Bool.true_or]

variable {now : Instant} {id taskName : String}

theorem receiveAll_cut (hm : create now id taskName p c = .ok m) {signals : List (Moment × Signal)}
    (hs : ∀ x ∈ signals, x.2.isOfRun = true) : ∃ pre post done rest, p.steps = pre ++ post ∧
      (m.receiveAll signals).session.Cut pre post done rest ∧ rest.tail = post.tail.map StepStatus.ofStep ∧
        ((m.receiveAll signals).session.state = .paused → rest = post.map StepStatus.ofStep) := by
  by_cases hfin : (m.receiveAll signals).phase = .finished
  · obtain ⟨b, hover, _⟩ := (create_inv hm).isOver signals hs hfin
    exact ⟨p.steps, [], _, [], (List.append_nil _).symm, hover.cut, rfl, fun _ => rfl⟩
  · exact (receiveAll_inv signals (create_inv hm) hs hfin).cut

theorem receiveAll_hasSettled (hm : create now id taskName p c = .ok m) {signals : List (Moment × Signal)}
    (hs : ∀ x ∈ signals, x.2.isOfRun = true) : ∃ k, (m.receiveAll signals).session.HasSettled p.steps k := by
  obtain ⟨_, _, done, _, hpost, hcut, hrest, _⟩ := receiveAll_cut hm hs
  exact ⟨done.length, hcut.hasSettled hpost hrest⟩

end

private def twoDoors : Plan where
  steps := [⟨"front", 1, .click "#front", [], {}⟩, ⟨"back", 2, .click "#back", [], {}⟩]
  delay _ _ := .ok (.part (.ofNat 1))

private def dawn : Moment := .ofSeconds (.ofNat 0)

private def heldAtBack : List (Moment × Signal) :=
  [.start, .outcome (.finished .nothing), .control .pause, .turn].map (dawn, ·)

private def wayOut : List (Moment × Signal) :=
  [.control .resume, .turn, .stop, .turn, .timeUp, .turn, .closed].map (dawn, ·)

private def freshDoors : Monitor := { plan := twoDoors, session := .ofSteps dawn.wall "session" "task" twoDoors.steps }

end Monitor

end BrowserPilot
