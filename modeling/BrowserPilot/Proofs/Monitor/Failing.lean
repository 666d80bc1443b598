import BrowserPilot.Proofs.Monitor.Settlement

/-!
# Failing a session from outside

A session that is failed before its run has started has every step failed with
the reason, and asks for nothing but to close the browser after a stop.
-/

namespace BrowserPilot

/-- A session that ends with all its steps failed is failed, unless it has none. -/
theorem Session.IsOver.of_failed {p : Plan} {stopped : Bool} {s : Session} (h : s.IsOver p stopped)
    (hf : ∀ st ∈ s.steps, st.state = .failed) : s.totalSteps = p.steps.length ∧ s.failedSteps = p.steps.length ∧
      s.state = if p.steps.isEmpty && !stopped then .completed else .failed := by
  have hlen : s.steps.length = p.steps.length := h.cut.settled.length_eq.symm
  have hpassed : (s.steps.all fun st => st.state.hasPassed) = p.steps.isEmpty := by
    cases hsteps : p.steps with
    | nil =>
      rw [hsteps] at hlen
      rw [List.length_eq_zero_iff.mp hlen]
      rfl
    | cons step post =>
      obtain ⟨st, hst⟩ := List.exists_mem_of_length_pos (l := s.steps) (by rw [hlen, hsteps]; exact Nat.zero_lt_succ _)
      refine List.all_eq_false.mpr ⟨st, hst, ?_⟩
      rw [hf st hst]
      decide
  refine ⟨h.cut.total, ?_, hpassed ▸ h.state⟩
  rw [h.cut.failed, ← hlen]
  exact List.countP_eq_length.mpr fun st hst => by rw [hf st hst]; rfl

namespace Monitor

variable {p : Plan} {c : Control} {m : Monitor}

theorem failSession_effect (now : Moment) (reason : String) (h : m.Inv p c) (hready : m.phase = .ready) :
    (m.failSession now reason).session.IsOver p c.stopped ∧
      (m.failSession now reason).phase = (if c.stopped then .closing else .finished) ∧
        (m.failSession now reason).requests = m.requests ++ (if c.stopped then [(now, .closeBrowser)] else []) ∧
          (m.failSession now reason).session.steps =
            p.steps.map fun step => (StepStatus.ofStep step).abandoned now.wall reason := by
  obtain ⟨hp, hc, hph⟩ := h
  rw [hready] at hph
  obtain ⟨_, hs, hcut⟩ := hph
  let m₀ := m.emit now .error [("error", .str reason)]
  let w := m₀.winding now reason [] (p.steps.map StepStatus.ofStep)
  let failed := (p.steps.map StepStatus.ofStep).map (StepStatus.abandoned now.wall reason)
  have hw := winding_eq now reason (p.steps.map StepStatus.ofStep) [] m₀ hcut.steps
  have hwcut : w.session.Cut p.steps [] failed [] := Session.Cut.winding (m := m₀) now reason hcut
  have hleaves : w.Leaves p c := by
    refine ⟨(congrArg Monitor.plan hw).trans hp, (congrArg Monitor.control hw).trans hc, ?_, p.steps, [], failed, [],
      by simp, hwcut⟩
    simp only [Session.StandsAt, w]
    rw [hw]
    exact hs
  have he : m.failSession now reason = w.ending now failed [] := failRemaining_finish (m := m₀) now reason hcut
  obtain ⟨hphase, hreq, hsteps⟩ := ending_effect now hwcut.steps
  have hwc : w.control = c := hleaves.control
  have hwr : w.requests = m.requests := (congrArg Monitor.requests hw).trans rfl
  rw [he]
  rw [hwc] at hphase
  refine ⟨?_, hphase, ?_, ?_⟩
  · have hover := (ending_inv now hleaves (by simp) hwcut).phase
    rw [hphase] at hover
    cases hst : c.stopped with
    | true =>
      simp only [hst, if_true] at hover
      exact hst ▸ hover.2
    | false =>
      simp only [hst, Bool.false_eq_true, if_false] at hover
      exact hst ▸ hover
  · rw [hreq, hwc, hwr]
  · rw [hsteps]
    simp [failed, Function.comp_def]

end Monitor

end BrowserPilot
