import BrowserPilot.Proofs.Monitor.Reference
import BrowserPilot.Proofs.Monitor.Rest

/-!
# Progress

A run that is not stopped has a number of attempts left, and each signal that it
waits for brings it nearer to its end, with or without pauses in between.
-/

namespace BrowserPilot

def Plan.attemptsFrom (p : Plan) (i : Nat) : Nat := ((p.steps.drop i).map fun s => 1 + s.policy.retries).sum

def Plan.attemptsAfter (p : Plan) (a : Attempt) : Nat :=
  (p.steps[a.index]?.elim 0 fun s => 1 + s.policy.retries - a.number) + p.attemptsFrom (a.index + 1)

/-- How many signals a run in a phase may still wait for before its end. -/
def Phase.toGo (p : Plan) : Phase → Nat
  | .ready => 4 * p.attemptsFrom 0 + 2
  | .parked i _ => 4 * p.attemptsFrom i + 1
  | .inFlight a none => 4 * p.attemptsAfter a + 4
  | .inFlight a (some _) => 4 * p.attemptsAfter a + 3
  | .backingOff a false => 4 * p.attemptsAfter a + 2
  | .backingOff a true => 4 * p.attemptsAfter a + 1
  | .inGrace .. | .closing | .finished | .raised _ => 0

section
variable {p : Plan} {i : Nat} {step : Step}

theorem Plan.attemptsFrom_step (hi : p.steps[i]? = some step) :
    p.attemptsFrom i = 1 + step.policy.retries + p.attemptsFrom (i + 1) := by
  obtain ⟨hlt, rfl⟩ := List.getElem?_eq_some_iff.mp hi
  unfold attemptsFrom
  rw [List.drop_eq_getElem_cons hlt, List.map_cons, List.sum_cons]

theorem Plan.attemptsAfter_first (hi : p.steps[i]? = some step) (action : Action) (fallback : Option Nat) :
    p.attemptsAfter ⟨i, 1, action, fallback⟩ + 1 = p.attemptsFrom i := by
  rw [attemptsFrom_step hi]
  simp only [attemptsAfter, hi, Option.elim_some]
  omega

theorem Plan.attemptsAfter_next {a : Attempt} (hi : p.steps[a.index]? = some step) (hn : a.number ≤ step.policy.retries)
    (action : Action) (fallback : Option Nat) :
    p.attemptsAfter ⟨a.index, a.number + 1, action, fallback⟩ + 1 = p.attemptsAfter a := by
  simp only [attemptsAfter, hi, Option.elim_some]
  omega

end

namespace Monitor

section
variable {m : Monitor} {now : Moment} {step : Step} {post : List Step} {done : List StepStatus} {st : StepStatus}

theorem Enters.toGo {r : Monitor × Next} (h : Enters now m done post r) (hb : m.Before post done)
    (hst : m.control.stopped = false) (hq : ¬Quits (.ok r)) :
    r.1.phase.toGo m.plan ≤ 4 * m.plan.attemptsFrom done.length + 1 := by
  cases h with
  | past => exact absurd trivial hq
  | stopped h => exact absurd (h.symm.trans hst) nofun
  | paused _ _ => exact Nat.le_refl _
  | @begun step post _ _ =>
    have hat : m.At step post done (.ofStep step) := hb
    have hfirst := Plan.attemptsAfter_first hat.step_eq (step.attempt 1).1 (step.attempt 1).2
    rw [← hfirst]
    exact Nat.le_succ _

theorem Advances.toGo {r : Monitor × Next} (h : Advances now m post done st r) (hst : m.control.stopped = false)
    (hq : ¬Quits (.ok r)) : r.1.phase.toGo m.plan ≤ 4 * m.plan.attemptsFrom (done.length + 1) + 1 := by
  have hgo := h.enters.toGo h.before hst hq
  rw [List.length_append, List.length_singleton] at hgo
  exact hgo

theorem GivesUp.toGo {r : Monitor × Next} (h : GivesUp now m post done st r) (hst : m.control.stopped = false)
    (hq : ¬Quits (.ok r)) : r.1.phase.toGo m.plan ≤ 4 * m.plan.attemptsFrom (done.length + 1) + 1 := by
  cases h with
  | aborts _ => exact absurd trivial hq
  | goesOn _ h => exact h.toGo hst hq

theorem Plan.attemptsFrom_le (p : Plan) (a : Attempt) : p.attemptsFrom (a.index + 1) ≤ p.attemptsAfter a :=
  Nat.le_add_left _ _

theorem Fails.toGo {a : Attempt} {e : StepFault} {r : Except Halt (Monitor × Next)} (h : Fails now m a step post done st e r)
    (ha : a.index = done.length) (hst : m.control.stopped = false) (hq : ¬Quits r) :
    (leftBy r).phase.toGo m.plan < 4 * m.plan.attemptsAfter a + 3 := by
  have hle : m.plan.attemptsFrom (done.length + 1) ≤ m.plan.attemptsAfter a := ha ▸ Plan.attemptsFrom_le m.plan a
  cases h with
  | skipped _ h =>
    have hgo := h.toGo hst hq
    simp only [leftBy]
    omega
  | retrying _ _ _ _ =>
    simp only [leftBy, backingOff, Phase.toGo]
    omega
  | undelayed _ _ _ _ => exact absurd trivial hq
  | @exhausted r _ _ h =>
    have hgo : r.1.phase.toGo m.plan ≤ 4 * m.plan.attemptsFrom (done.length + 1) + 1 := h.toGo hst hq
    simp only [leftBy]
    omega

theorem Tries.step_eq {a : Attempt} (h : m.Tries a step post done st) : m.plan.steps[a.index]? = some step := by
  rw [h.index]
  exact h.here.step_eq

theorem Unstopped.sees {a : Attempt} {o : Outcome} (h : m.Unstopped) (hs : m.Sees a o) : m.phase = .inFlight a (some o) := by
  rcases hs with hph | ⟨expired, hph⟩
  · exact hph
  · exact absurd (hph ▸ h.phase) nofun

/-- **A turn leaves fewer signals to wait for.** -/
theorem Turns.toGo {c : Control} {r : Except Halt (Monitor × Next)} (h : Turns now m r) (hinv : m.Inv m.plan c)
    (hun : m.Unstopped) (hst : m.control.stopped = false) (hi : m.isReady = true) (hq : ¬Quits r) :
    (leftBy r).phase.toGo m.plan < m.phase.toGo m.plan := by
  cases h with
  | idle h => exact absurd (hi.symm.trans h) nofun
  | unparked _ h | graced _ h _ _ | deserted _ h _ _ _ => exact absurd (h.symm.trans hst) nofun
  | @resumed i step post done hph _ hi h =>
    have hfirst := Plan.attemptsAfter_first h.step_eq (step.attempt 1).1 (step.attempt 1).2
    rw [hph, hi, Phase.toGo, ← hfirst]
    exact Nat.lt_succ_self _
  | resumedPast _ _ _ | unstored _ _ _ _ | lost _ _ _ | cancelled _ _ _ => exact absurd trivial hq
  | @passed a step post done st st' o r hs h _ _ hn =>
    have hgo := hn.toGo hst hq
    have hle := Plan.attemptsFrom_le m.plan a
    rw [← h.index] at hgo
    rw [hun.sees hs, Phase.toGo, leftBy]
    omega
  | failed hs _ h _ hn =>
    rw [hun.sees hs]
    exact hn.toGo h.index hst hq
  | @retried a step post done st hph _ h hf =>
    -- a run that waits between attempts has one left
    have hphase := hinv.phase
    rw [hph] at hphase
    obtain ⟨_, step', st', _, _, hn, ⟨⟨pre, post', done', hpost, ha, hcut⟩, _, _⟩⟩ := hphase
    have hstep : m.plan.steps[a.index]? = some step' := ha ▸ hcut.step_eq hpost
    cases h.step_eq.symm.trans hstep
    have hnext := Plan.attemptsAfter_next hstep hn (step.attempt (a.number + 1)).1 (step.attempt (a.number + 1)).2
    rw [hph, Phase.toGo, ← hnext, h.index]
    exact Nat.lt_succ_self _

theorem isOver_iff : m.isOver = true ↔ m.phase = .finished ∨ ∃ f, m.phase = .raised f := by
  unfold isOver
  cases m.phase <;> simp

theorem Unstopped.toGo_pos (h : m.Unstopped) (ho : m.isOver = false) (p : Plan) : 0 < m.phase.toGo p := by
  have hover : ¬(m.phase = .finished ∨ ∃ f, m.phase = .raised f) := fun hph => absurd (ho.symm.trans (isOver_iff.mpr hph)) nofun
  cases hph : m.phase with
  | inFlight a o => cases o <;> exact Nat.succ_pos _
  | backingOff a slept => cases slept <;> exact Nat.succ_pos _
  | ready | parked i woken => exact Nat.succ_pos _
  | inGrace a o expired | closing => exact absurd (hph ▸ h.phase) nofun
  | finished => exact absurd (.inl hph) hover
  | raised f => exact absurd (.inr ⟨f, hph⟩) hover

theorem afterMove_toGo {p : Plan} {c : Control} {r : Except Halt (Monitor × Next)} (hl : Lands p c r) (hst : c.stopped = false)
    (now : Moment) {n : Nat} (hn : 0 < n) (hlt : ¬Quits r → (leftBy r).phase.toGo p < n) :
    (afterMove now r).phase.toGo p < n := by
  by_cases hq : Quits r
  · rw [(afterMove_quits now hl hq).1, hst]
    exact hn
  · rw [afterMove_waits now hq]
    exact hlt hq

theorem turn_toGo {p : Plan} {c : Control} (h : m.Inv p c) (hun : m.Unstopped) (hi : m.isReady = true)
    (ho : m.isOver = false) (now : Moment) : (m.receive now .turn).phase.toGo p < m.phase.toGo p := by
  obtain ⟨rfl, rfl, _⟩ := id h
  have hst := hun.going ho
  exact afterMove_toGo (takeTurn_lands h now) hst now (hun.toGo_pos ho _) fun hq =>
    (takeTurn_turns h now).toGo h hun hst hi hq

theorem start_toGo {p : Plan} {c : Control} (h : m.Inv p c) (hready : m.phase = .ready) (hst : c.stopped = false)
    (now : Moment) : (m.receive now .start).phase.toGo p < m.phase.toGo p := by
  obtain ⟨data, r, hstart, hbefore, he, hl⟩ := start_enters h hready now
  rw [hstart, hready]
  refine afterMove_toGo hl hst now (Nat.succ_pos _) fun hq => ?_
  have hgo := he.toGo hbefore (h.control ▸ hst) hq
  rw [show (m.emit now .sessionStarted data).plan = p from h.plan] at hgo
  exact Nat.lt_succ_of_le hgo

/-- **The signal that a run waits for brings it nearer to its end.** -/
theorem awaited_toGo {p : Plan} (h : m.Reached p) (hun : m.Unstopped) (hc : m.control = {}) (ho : m.isOver = false)
    (c : Course) (now : Moment) : (m.receive now (m.awaited c)).phase.toGo p < m.phase.toGo p := by
  have hopen : m.phase ≠ .finished := fun hph => by simp [isOver, hph] at ho
  have hinv := h.inv hopen
  cases hph : m.phase with
  | ready =>
    have hlt := start_toGo hinv hph (hun.going ho) now
    simp only [awaited, hph] at hlt ⊢
    exact hlt
  | inFlight a o =>
    cases o with
    | none =>
      simp only [awaited, receive, hph]
      exact Nat.lt_succ_self _
    | some o =>
      have hlt := turn_toGo hinv hun (by simp [isReady, hph]) ho now
      simp only [awaited, hph] at hlt ⊢
      exact hlt
  | backingOff a slept =>
    cases slept with
    | false =>
      simp only [awaited, receive, hph]
      exact Nat.lt_succ_self _
    | true =>
      have hlt := turn_toGo hinv hun (by simp [isReady, hph]) ho now
      simp only [awaited, hph] at hlt ⊢
      exact hlt
  | parked i woken =>
    have hwoken : woken = true := by
      cases woken with
      | true => rfl
      | false => exact absurd ((h.atRest hopen).asleep i hph).1 (by simp [hc])
    have hlt := turn_toGo hinv hun (by simp [isReady, hph, hwoken]) ho now
    simp only [awaited, hph] at hlt ⊢
    exact hlt
  | finished => exact absurd hph hopen
  | raised f => simp [isOver, hph] at ho
  | inGrace a o expired | closing => cases hph ▸ hun.phase

end

end Monitor

end BrowserPilot
