import BrowserPilot.Proofs.Monitor.Advance

/-!
# The counters of a session

Every record of a session is counted as completed or failed, or is still open.
Only a stop ends a session ahead of its records, and only until the run is
wound up.
-/

namespace BrowserPilot

def Session.openSteps (s : Session) : Nat := s.steps.countP fun st => !st.final

/-- Whether a run in a phase has nothing left but to close its browser. -/
def Phase.isWoundUp : Phase → Bool
  | .closing | .finished => true
  | _ => false

namespace Session

variable {s : Session} {pre post : List Step} {done rest : List StepStatus}

theorem Cut.openSteps_eq (h : s.Cut pre post done rest) : s.openSteps = rest.length := by
  have hdone : done.countP (fun st => !st.final) = 0 :=
    List.countP_eq_zero.mpr fun st hst => by simp [StepStatus.final_of_isTerminal (h.terminal st hst)]
  have hrest : rest.countP (fun st => !st.final) = rest.length :=
    List.countP_eq_length.mpr fun st hst => by simp [StepStatus.not_final_of_isPending (h.pending st hst)]
  rw [openSteps, h.steps, List.countP_append, hdone, hrest, Nat.zero_add]

theorem Cut.tally (h : s.Cut pre post done rest) : s.completedSteps + s.failedSteps + s.openSteps = s.totalSteps := by
  rw [h.completed, h.failed, StepStatus.countP_settled h.terminal, h.openSteps_eq, h.total, h.settled.length_eq,
    h.unsettled.length_eq]

theorem StandsAt.stopped_of_isTerminal {state : SessionState} {b : Bool} (h : s.StandsAt state b)
    (hopen : state.isTerminal = false) (ht : s.isTerminal = true) : s.state = .failed ∧ b = true := by
  rcases h with ⟨hs, _⟩ | ⟨hs, _, hb⟩
  · rw [isTerminal, hs, hopen] at ht
    cases ht
  · exact ⟨hs, hb⟩

end Session

namespace Monitor

section
variable {m : Monitor} {p : Plan} {c : Control}

/-- As long as a run is not wound up, only a stop can have ended its session. -/
theorem Inv.stopped_of_isTerminal (h : m.Inv p c) (hw : m.phase.isWoundUp = false) (ht : m.session.isTerminal = true) :
    m.session.state = .failed ∧ c.stopped = true := by
  have hph := h.phase
  cases hphase : m.phase with
  | ready =>
    rw [hphase] at hph
    exact hph.2.1.stopped_of_isTerminal rfl ht
  | parked i woken | inFlight a o | inGrace a o expired | backingOff a slept =>
    rw [hphase] at hph
    exact hph.1.stopped_of_isTerminal rfl ht
  | closing | finished =>
    rw [hphase] at hw
    cases hw
  | raised f =>
    rw [hphase] at hph
    exact hph.elim

theorem receiveAll_isOver {now : Instant} {id taskName : String} (hm : create now id taskName p c = .ok m)
    {signals : List (Moment × Signal)} (hs : ∀ x ∈ signals, x.2.isOfRun = true)
    (hw : (m.receiveAll signals).phase.isWoundUp = true) : ∃ b, (m.receiveAll signals).session.IsOver p b := by
  cases hphase : (m.receiveAll signals).phase with
  | closing =>
    have hph := (receiveAll_inv signals (create_inv hm) hs (by rw [hphase]; nofun)).phase
    rw [hphase] at hph
    exact ⟨_, hph.2⟩
  | finished =>
    obtain ⟨b, hover, _⟩ := (create_inv hm).isOver signals hs hphase
    exact ⟨b, hover⟩
  | _ =>
    rw [hphase] at hw
    cases hw

end

/-- **The counters add up.** At any time the completed, the failed and the open
steps make up the total. A session that is completed has no open ones, and one
that has failed only while a stop has ended it and the run is not wound up. -/
theorem tally_adds_up {now : Instant} {id taskName : String} {plan : Plan} {control : Control} {m : Monitor}
    (hm : create now id taskName plan control = .ok m) {signals : List (Moment × Signal)}
    (hs : ∀ x ∈ signals, x.2.isOfRun = true) :
    let reached := m.receiveAll signals
    let s := reached.session
    let stopped := control.stopped || signals.any (·.2.asksStop)
    s.completedSteps + s.failedSteps + s.openSteps = s.totalSteps ∧ s.totalSteps = plan.steps.length ∧
      (s.state = .completed → s.completedSteps + s.failedSteps = s.totalSteps) ∧
        (s.state = .failed → s.completedSteps + s.failedSteps = s.totalSteps ∨
          stopped = true ∧ reached.phase.isWoundUp = false) ∧
          (reached.phase.isWoundUp = true → s.isTerminal = true ∧ s.completedSteps + s.failedSteps = s.totalSteps) := by
  intro reached s stopped
  obtain ⟨pre, post, done, rest, hpost, hcut, _⟩ := receiveAll_cut hm hs
  have hover : reached.phase.isWoundUp = true → s.isTerminal = true ∧ s.completedSteps + s.failedSteps = s.totalSteps := by
    intro hw
    obtain ⟨b, hover⟩ := receiveAll_isOver hm hs hw
    exact ⟨hover.isTerminal, hover.isSettled.total⟩
  have hearly : reached.phase.isWoundUp = false → s.isTerminal = true → s.state = .failed ∧ stopped = true := by
    intro hw ht
    have hinv := receiveAll_inv signals (create_inv hm) hs fun hfin => by
      rw [show reached.phase = .finished from hfin] at hw
      cases hw
    have hstopped := hinv.stopped_of_isTerminal hw ht
    rwa [Control.afterAll_stopped] at hstopped
  refine ⟨hcut.tally, ?_, fun hcompleted => ?_, fun hfailed => ?_, hover⟩
  · rw [hcut.total, hpost, List.length_append]
  · by_contra hne
    have hw : reached.phase.isWoundUp = false := Bool.eq_false_iff.mpr fun hw => hne (hover hw).2
    have hfailed := (hearly hw (by rw [Session.isTerminal, hcompleted]; rfl)).1
    rw [hcompleted] at hfailed
    cases hfailed
  · cases hw : reached.phase.isWoundUp with
    | true => exact .inl (hover hw).2
    | false => exact .inr ⟨(hearly hw (by rw [Session.isTerminal, hfailed]; rfl)).2, rfl⟩

private def longClick : Plan where
  steps := [⟨"step-1", 1, .click "#slow", [], {}⟩]
  delay _ _ := .ok (.part (.ofNat 1))

private def midnight : Moment := .ofSeconds (.ofNat 0)

private def freshClick : Monitor := { plan := longClick, session := .ofSteps midnight.wall "session" "task" longClick.steps }

private def stoppedInFlight : List (Moment × Signal) := [.start, .stop].map (midnight, ·)

private def windingUp : List (Moment × Signal) := [.turn, .timeUp, .turn].map (midnight, ·)

theorem tally_adds_up_inFlight : create midnight.wall "session" "task" longClick {} = .ok freshClick ∧
    (∀ x ∈ stoppedInFlight ++ windingUp, x.2.isOfRun = true) ∧
      (freshClick.receiveAll (stoppedInFlight ++ windingUp)).phase.isWoundUp = true ∧
        (freshClick.receiveAll (stoppedInFlight ++ windingUp)).session.completedSteps +
            (freshClick.receiveAll (stoppedInFlight ++ windingUp)).session.failedSteps =
          (freshClick.receiveAll (stoppedInFlight ++ windingUp)).session.totalSteps ∧
          (freshClick.receiveAll (stoppedInFlight ++ windingUp)).session.totalSteps = 1 := by
  have hcreate : create midnight.wall "session" "task" longClick {} = .ok freshClick := rfl
  have hrun : ∀ x ∈ stoppedInFlight ++ windingUp, x.2.isOfRun = true := by
    simp [stoppedInFlight, windingUp, Signal.isOfRun]
  have hwound : (freshClick.receiveAll (stoppedInFlight ++ windingUp)).phase.isWoundUp = true := by rfl
  obtain ⟨_, htotal, _, _, hover⟩ := tally_adds_up hcreate hrun
  exact ⟨hcreate, hrun, hwound, (hover hwound).2, htotal⟩

/-- A stop ends the session at once, before the run has started as well as
under a primitive: the session has failed with its step still open. -/
theorem tally_behind_stop : create midnight.wall "session" "task" longClick {} = .ok freshClick ∧
    ((freshClick.receiveAll [(midnight, .stop)]).session.state = .failed ∧
      (freshClick.receiveAll [(midnight, .stop)]).session.completedSteps +
          (freshClick.receiveAll [(midnight, .stop)]).session.failedSteps ≠
        (freshClick.receiveAll [(midnight, .stop)]).session.totalSteps) ∧
      (freshClick.receiveAll stoppedInFlight).session.state = .failed ∧
        (freshClick.receiveAll stoppedInFlight).session.completedSteps +
            (freshClick.receiveAll stoppedInFlight).session.failedSteps ≠
          (freshClick.receiveAll stoppedInFlight).session.totalSteps :=
  ⟨rfl, ⟨rfl, Nat.zero_ne_one⟩, rfl, Nat.zero_ne_one⟩

end Monitor

end BrowserPilot
