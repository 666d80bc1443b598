import BrowserPilot.Proofs.Monitor.Turns

/-!
# What a signal can do

Every signal of a run calls on the token, takes the run on by a move, changes
what the monitor waits for, ends the closing of the browser, or is passed over.
Laws of whole runs are read off this list and open no signal again.
-/

namespace BrowserPilot

/-- A signal that changes what a monitor waits for, and nothing else. -/
inductive Phase.Hears : Phase → Signal → Phase → Prop where
  | outcome (a : Attempt) (o : Outcome) : Hears (.inFlight a none) (.outcome o) (.inFlight a (some o))
  | outcomeInGrace (a : Attempt) (expired : Bool) (o : Outcome) :
      Hears (.inGrace a none expired) (.outcome o) (.inGrace a (some o) expired)
  | graceOver (a : Attempt) (o : Option Outcome) : Hears (.inGrace a o false) .timeUp (.inGrace a o true)
  | delayOver (a : Attempt) : Hears (.backingOff a false) .timeUp (.backingOff a true)

theorem Phase.Hears.ne_finished {ph ph' : Phase} {s : Signal} (h : ph.Hears s ph') : ph' ≠ .finished := by
  cases h <;> nofun

theorem Phase.Hears.ne_parked {ph ph' : Phase} {s : Signal} (h : ph.Hears s ph') (i : Nat) (woken : Bool) :
    ph' ≠ .parked i woken := by
  cases h <;> nofun

namespace Monitor

/-- A signal that does not fit what a monitor waits for. -/
def Misses (m : Monitor) : Signal → Prop
  | .start => m.phase ≠ .ready
  | .turn => m.isReady = false
  | .outcome o => ¬∃ ph, m.phase.Hears (.outcome o) ph
  | .timeUp => ¬∃ ph, m.phase.Hears .timeUp ph
  | .closed => m.phase ≠ .closing
  | .fail _ | .control _ | .stop => False

/-- What a signal of a run can do. -/
inductive Receives (p : Plan) (c : Control) (now : Moment) (m : Monitor) : Signal → Monitor → Prop where
  | called (call : ControlCall) : Receives p c now m (.control call) (m.applyControl call)
  | halted : Receives p c now m .stop ((m.applyControl .stop).stopping now)
  | begun {data : Json.Members} {r : Monitor × Next} (hinv : m.Inv p c) (hready : m.phase = .ready)
      (hs : m.session.StandsAt .running m.control.stopped)
      (hb : (m.emit now .sessionStarted data).Before m.plan.steps [])
      (he : Enters now (m.emit now .sessionStarted data) [] m.plan.steps r) (hl : Lands p c (.ok r)) :
      Receives p c now m .start (afterMove now (.ok r))
  | turned {r : Except Halt (Monitor × Next)} (hinv : m.Inv p c) (hi : m.isReady = true) (ht : Turns now m r)
      (hl : Lands p c r) : Receives p c now m .turn (afterMove now r)
  | heard {s : Signal} {ph : Phase} (h : m.phase.Hears s ph) : Receives p c now m s { m with phase := ph }
  | closed (hinv : m.Inv p c) (hclosing : m.phase = .closing) : Receives p c now m .closed (m.announceEnd now)
  | missed {s : Signal} (h : m.Misses s) : Receives p c now m s m

section
variable {m : Monitor} {p : Plan} {c : Control}

theorem takeTurn_idle (now : Moment) (hi : m.isReady = false) : m.takeTurn now = .ok (m, .wait) := by
  unfold isReady at hi
  unfold takeTurn
  cases hphase : m.phase with
  | parked i woken => simp_all
  | inFlight a o => cases o <;> simp_all
  | inGrace a o expired => cases o <;> cases expired <;> simp_all
  | backingOff a slept => simp_all
  | ready | closing | finished | raised f => rfl

/-- A run starts in front of its first step, behind the event that tells of its start. -/
theorem start_enters (h : m.Inv p c) (hready : m.phase = .ready) (now : Moment) :
    ∃ data r, m.receive now .start = afterMove now (.ok r) ∧
      (m.emit now .sessionStarted data).Before m.plan.steps [] ∧
        Enters now (m.emit now .sessionStarted data) [] m.plan.steps r ∧ Lands p c (.ok r) := by
  have hph := h.phase
  rw [hready] at hph
  obtain ⟨hf, hs, hcut⟩ := hph
  let m₀ := m.emit now .sessionStarted [("task_name", .str m.session.taskName), ("total_steps", .ofNat m.session.totalSteps)]
  have hbefore : m₀.Before m.plan.steps [] := ⟨[], rfl, h.plan ▸ hcut⟩
  obtain ⟨r, hr, he⟩ := enterStep_enters (m := m₀) now hbefore (h.control ▸ hs)
  have hl := enterStep_lands (m := m₀) h.plan h.control now hs rfl hcut
  rw [show m₀.enterStep now [].length = .ok r from hr] at hl
  refine ⟨_, r, ?_, hbefore, he, hl⟩
  simp only [receive, hready, hf, Bool.false_eq_true, if_false]
  rw [start_eq now (h.plan ▸ hcut.steps)]
  exact congrArg (afterMove now) hr

theorem Inv.standsAt_ready (h : m.Inv p c) (hready : m.phase = .ready) : m.session.StandsAt .running m.control.stopped := by
  have hph := h.phase
  rw [hready] at hph
  exact h.control ▸ hph.2.1

theorem receive_heard {now : Moment} {s : Signal} {ph : Phase} (h : m.phase.Hears s ph) :
    m.receive now s = { m with phase := ph } := by
  generalize hphase : m.phase = ph₀ at h
  cases h <;> simp only [receive, hphase]

theorem receive_unheard (now : Moment) {s : Signal} (hs : (∃ o, s = .outcome o) ∨ s = .timeUp)
    (h : ¬∃ ph, m.phase.Hears s ph) : m.receive now s = m := by
  have hnone {ph₀ ph : Phase} (hphase : m.phase = ph₀) : ¬ph₀.Hears s ph := fun hh => h ⟨ph, hphase ▸ hh⟩
  rcases hs with ⟨o, rfl⟩ | rfl
  · cases hphase : m.phase with
    | inFlight a o' =>
      cases o' with
      | none => exact (hnone hphase (.outcome a o)).elim
      | some _ => simp only [receive, hphase]
    | inGrace a o' expired =>
      cases o' with
      | none => exact (hnone hphase (.outcomeInGrace a expired o)).elim
      | some _ => simp only [receive, hphase]
    | _ => simp only [receive, hphase]
  · cases hphase : m.phase with
    | inGrace a o expired =>
      cases expired with
      | false => exact (hnone hphase (.graceOver a o)).elim
      | true =>
        simp only [receive, hphase]
        rw [← hphase]
    | backingOff a slept =>
      cases slept with
      | false => exact (hnone hphase (.delayOver a)).elim
      | true =>
        simp only [receive, hphase]
        rw [← hphase]
    | _ => simp only [receive, hphase]

theorem receive_missed (now : Moment) {s : Signal} (h : m.Misses s) : m.receive now s = m := by
  cases s with
  | start => cases hphase : m.phase <;> simp_all [Misses, receive]
  | turn => simp only [receive, takeTurn_idle now h, afterMove]
  | outcome o => exact receive_unheard now (.inl ⟨o, rfl⟩) h
  | timeUp => exact receive_unheard now (.inr rfl) h
  | closed => cases hphase : m.phase <;> simp_all [Misses, receive]
  | fail _ | control _ | stop => exact h.elim

theorem Misses.receives (now : Moment) {s : Signal} (h : m.Misses s) : m.Receives p c now s (m.receive now s) := by
  rw [receive_missed now h]
  exact .missed h

/-- **What a signal can do.** Each signal of a run is one of these. -/
theorem receive_receives (h : m.phase ≠ .finished → m.Inv p c) (now : Moment) {s : Signal} (hs : s.isOfRun = true) :
    m.Receives p c now s (m.receive now s) := by
  match s with
  | .control call => exact .called call
  | .stop =>
    rw [receive_stop]
    exact .halted
  | .turn =>
    cases hi : m.isReady with
    | false => exact Misses.receives now hi
    | true =>
      have hinv := h fun hf => by simp [isReady, hf] at hi
      exact .turned hinv hi (takeTurn_turns hinv now) (takeTurn_lands hinv now)
  | .start =>
    by_cases hready : m.phase = .ready
    · have hinv := h (by simp [hready])
      obtain ⟨data, r, hstart, hb, he, hl⟩ := start_enters hinv hready now
      rw [hstart]
      exact .begun hinv hready (hinv.standsAt_ready hready) hb he hl
    · exact Misses.receives now hready
  | .outcome o =>
    by_cases hh : ∃ ph, m.phase.Hears (.outcome o) ph
    · obtain ⟨ph, hh⟩ := hh
      rw [receive_heard hh]
      exact .heard hh
    · exact Misses.receives now hh
  | .timeUp =>
    by_cases hh : ∃ ph, m.phase.Hears .timeUp ph
    · obtain ⟨ph, hh⟩ := hh
      rw [receive_heard hh]
      exact .heard hh
    · exact Misses.receives now hh
  | .closed =>
    by_cases hclosing : m.phase = .closing
    · have hend : m.receive now .closed = m.announceEnd now := by simp only [receive, hclosing]
      rw [hend]
      exact .closed (h (by simp [hclosing])) hclosing
    · exact Misses.receives now hclosing

end

end Monitor

end BrowserPilot
