import BrowserPilot.Proofs.Monitor.Advance

/-!
# Runs at rest

Between two signals a run waits, and what it waits for is still to come. The
browser is told to close with the last move of a stopped run only.
-/

namespace BrowserPilot

/-- How often the browser has been told to close by a run that is stopped. -/
def Phase.closings : Phase → Nat
  | .closing | .finished => 1
  | _ => 0

namespace Monitor

/-! ## Closing the browser -/

def closings (m : Monitor) : Nat := m.asked.count .closeBrowser

/-- The browser is told to close with the last move only, and a run that no one
has woken is paused. -/
structure Rests (m : Monitor) : Prop where
  closings : m.closings = m.phase.closings
  asleep : ∀ i, m.phase = .parked i false → m.control.paused = true ∧ m.control.stopped = false

/-- A move leaves the step loop, be it with a fault. -/
def Quits : Except Halt (Monitor × Next) → Prop
  | .ok (_, .wait) => False
  | _ => True

/-- A move that waits leaves a monitor at rest, in a pause or at a step, and none tells the browser to close. -/
structure Loops (m : Monitor) (r : Except Halt (Monitor × Next)) : Prop where
  closings : (leftBy r).closings = m.closings
  rests : ¬Quits r → (leftBy r).phase.closings = 0 ∧ ∀ i woken, (leftBy r).phase = .parked i woken →
    woken = false ∧ (leftBy r).control.paused = true ∧ (leftBy r).control.stopped = false

section
variable (now : Moment) (done : List StepStatus) (st : StepStatus) (rest : List StepStatus) (m : Monitor)

@[simp] theorem stopping_closings : (m.stopping now).closings = m.closings := by
  rw [closings, asked, stopping_requests]
  rfl

@[simp] theorem settling_closings : (m.settling now done st rest).closings = m.closings := rfl

@[simp] theorem failing_closings (a : Attempt) (e : StepFault) : (m.failing done st rest a e).closings = m.closings := rfl

@[simp] theorem attempting_closings (step : Step) (number : Nat) :
    (m.attempting now step number done st rest).closings = m.closings := by
  simp [closings, asked, attempting, withSteps]

@[simp] theorem backingOff_closings (a : Attempt) (step : Step) (e : StepFault) (delay : Amount) :
    (m.backingOff now a step e delay).closings = m.closings := by
  simp [closings, asked, backingOff]

@[simp] theorem gracing_closings (a : Attempt) : (m.gracing now a).closings = m.closings := by
  rw [← stopping_closings now m]
  simp [closings, asked, gracing, request, emit]

end

section
variable {m : Monitor} {now : Moment} {post : List Step} {done : List StepStatus} {st : StepStatus}

theorem Enters.loops {r : Monitor × Next} (h : Enters now m done post r) : m.Loops (.ok r) := by
  cases h with
  | past => exact ⟨rfl, fun hq => absurd trivial hq⟩
  | stopped _ => exact ⟨stopping_closings now m, fun hq => absurd trivial hq⟩
  | paused hst hpa => exact ⟨rfl, fun _ => ⟨rfl, fun i woken h => ⟨by cases h; rfl, hpa, hst⟩⟩⟩
  | begun _ _ => exact ⟨attempting_closings .., fun _ => ⟨rfl, nofun⟩⟩

theorem Loops.of_closings {m' : Monitor} {r : Except Halt (Monitor × Next)} (h : m'.Loops r)
    (hc : m'.closings = m.closings) : m.Loops r :=
  ⟨h.closings.trans hc, h.rests⟩

theorem Advances.loops {r : Monitor × Next} (h : Advances now m post done st r) : m.Loops (.ok r) :=
  h.enters.loops.of_closings (settling_closings ..)

theorem GivesUp.loops {r : Monitor × Next} (h : GivesUp now m post done st r) : m.Loops (.ok r) := by
  cases h with
  | aborts _ => exact ⟨settling_closings .., fun hq => absurd trivial hq⟩
  | goesOn _ h => exact h.loops

theorem Fails.loops {a : Attempt} {step : Step} {e : StepFault} {r : Except Halt (Monitor × Next)}
    (h : Fails now m a step post done st e r) : m.Loops r := by
  cases h with
  | skipped _ h => exact h.loops
  | retrying _ _ _ _ => exact ⟨backingOff_closings .., fun _ => ⟨rfl, nofun⟩⟩
  | undelayed _ _ _ _ => exact ⟨failing_closings .., fun hq => absurd trivial hq⟩
  | exhausted _ _ h => exact h.loops.of_closings (failing_closings ..)

/-- **A turn does not close the browser**, unless it leaves the step loop. -/
theorem Turns.loops {r : Except Halt (Monitor × Next)} (h : Turns now m r) (hi : m.isReady = true) : m.Loops r := by
  have hquit {r : Except Halt (Monitor × Next)} (hc : (leftBy r).closings = m.closings) (hq : Quits r) : m.Loops r :=
    ⟨hc, fun hn => absurd hq hn⟩
  cases h with
  | idle h => exact absurd (hi.symm.trans h) nofun
  | unparked _ _ => exact hquit (stopping_closings now m) trivial
  | resumed _ _ _ _ => exact ⟨attempting_closings .., fun _ => ⟨rfl, nofun⟩⟩
  | resumedPast _ _ _ => exact hquit rfl trivial
  | passed _ _ _ _ h => exact h.loops
  | unstored _ _ _ _ | lost _ _ _ => exact hquit rfl trivial
  | failed _ _ _ _ h => exact h.loops
  | graced _ _ _ _ => exact ⟨gracing_closings .., fun _ => ⟨rfl, nofun⟩⟩
  | cancelled _ _ _ => exact hquit (settling_closings ..) trivial
  | deserted _ _ _ _ h => exact h.loops.of_closings (stopping_closings now m)
  | retried _ _ _ _ => exact ⟨attempting_closings .., fun _ => ⟨rfl, nofun⟩⟩

end

/-! ## Winding up -/

section
variable {p : Plan} {c : Control} (now : Moment)

/-- Leaving the step loop ends the run, or closes the browser for a stop. -/
theorem afterMove_quits {r : Except Halt (Monitor × Next)} (hl : Lands p c r) (hq : Quits r) :
    (afterMove now r).phase = (if c.stopped then .closing else .finished) ∧
      (afterMove now r).requests = (leftBy r).requests ++ if c.stopped then [(now, .closeBrowser)] else [] := by
  match r, hl with
  | .ok (m, .wait), _ => exact hq.elim
  | .ok (m, .leave), hl =>
    obtain ⟨pre, post, done, rest, _, hcut⟩ := hl.split
    obtain ⟨hphase, hreq, _⟩ := ending_effect now hcut.steps
    simp only [afterMove, finish_eq hcut.steps hcut.terminal hcut.pending, orRaised]
    rw [← hl.control]
    exact ⟨hphase, hreq⟩
  | .error ⟨m, f⟩, hl =>
    obtain ⟨pre, post, done, rest, _, hcut⟩ := hl.split
    let m₀ := m.emit now .error [("error", .str f.message)]
    have hw := winding_eq now (reasonOf f) rest done m₀ hcut.steps
    have hwound := Session.Cut.winding (m := m₀) now (reasonOf f) hcut
    obtain ⟨hphase, hreq, _⟩ := ending_effect now hwound.steps
    have hc : (m₀.winding now (reasonOf f) done rest).control = c := (congrArg Monitor.control hw).trans hl.control
    have hr : (m₀.winding now (reasonOf f) done rest).requests = m.requests := by
      rw [hw]
      rfl
    rw [afterMove_error now hcut, ← hc]
    exact ⟨hphase, hr ▸ hreq⟩

theorem afterMove_waits {r : Except Halt (Monitor × Next)} (hq : ¬Quits r) : afterMove now r = leftBy r := by
  match r, hq with
  | .ok (m, .wait), _ => rfl
  | .ok (m, .leave), hq => exact absurd trivial hq
  | .error h, hq => exact absurd trivial hq

/-- A move of a monitor at rest leaves it at rest, unless it is the end of a run that no one stopped. -/
theorem Loops.afterMove {m : Monitor} {r : Except Halt (Monitor × Next)} (h : m.Loops r) (hl : Lands p c r)
    (hm : m.closings = 0) :
    (afterMove now r).Rests ∨ (afterMove now r).phase = .finished ∧ c.stopped = false := by
  by_cases hq : Quits r
  · obtain ⟨hphase, hreq⟩ := afterMove_quits now hl hq
    cases hst : c.stopped with
    | false =>
      rw [hst] at hphase
      exact .inr ⟨hphase, rfl⟩
    | true =>
      rw [hst] at hphase hreq
      refine .inl ⟨?_, fun i hi => ?_⟩
      · have hleft : ((leftBy r).requests.map (·.2)).count .closeBrowser = 0 := h.closings.trans hm
        rw [hphase, Monitor.closings, asked, hreq]
        simp [Phase.closings, hleft]
      · rw [hphase] at hi
        cases hi
  · obtain ⟨hphase, hasleep⟩ := h.rests hq
    rw [afterMove_waits now hq]
    exact .inl ⟨by rw [hphase, h.closings, hm], fun i hi => (hasleep i false hi).2⟩

end

/-! ## Signals -/

section
variable {m : Monitor} {p : Plan} {c : Control}

theorem receive_finished (hph : m.phase = .finished) (now : Moment) (s : Signal) : (m.receive now s).phase = .finished := by
  match s with
  | .control call => simp only [receive, Monitor.applyControl, hph]
  | .stop => simp only [receive_stop, stopping_phase, Monitor.applyControl, hph]
  | .turn => simp only [receive, takeTurn, hph, afterMove]
  | .start | .fail _ | .outcome _ | .timeUp | .closed => simp only [receive, hph]

theorem closings_of_isReady (hi : m.isReady = true) : m.phase.closings = 0 := by
  unfold isReady at hi
  cases hphase : m.phase with
  | closing | finished => simp [hphase] at hi
  | _ => rfl

theorem applyControl_phase (m : Monitor) (call : ControlCall) : (m.applyControl call).phase = m.phase ∨
    ∃ i woken woken', m.phase = .parked i woken ∧ (m.applyControl call).phase = .parked i woken' := by
  unfold Monitor.applyControl
  cases m.phase with
  | parked i woken => exact .inr ⟨i, woken, _, rfl, rfl⟩
  | _ => exact .inl rfl

/-- What depends on a phase, but not on whether a parked run is woken, is not for a call on the token to change. -/
theorem applyControl_ofPhase {α : Type} (f : Phase → α) (hf : ∀ i woken woken', f (.parked i woken) = f (.parked i woken'))
    (m : Monitor) (call : ControlCall) : f (m.applyControl call).phase = f m.phase := by
  rcases applyControl_phase m call with h | ⟨i, woken, woken', h, h'⟩
  · rw [h]
  · rw [h, h']
    exact hf _ _ _

theorem Rests.applyControl (hr : m.Rests) (call : ControlCall) : (m.applyControl call).Rests := by
  have hcl : (m.applyControl call).closings = m.closings := rfl
  refine ⟨?_, fun i hi => ?_⟩
  · rw [hcl, hr.closings]
    exact (applyControl_ofPhase Phase.closings (fun _ _ _ => rfl) m call).symm
  · unfold Monitor.applyControl at hi
    cases hphase : m.phase with
    | parked j woken =>
      simp only [hphase, Phase.parked.injEq, Bool.or_eq_false_iff, Bool.not_eq_false'] at hi
      obtain ⟨rfl, rfl, hpa⟩ := hi
      obtain ⟨_, hst⟩ := hr.asleep j hphase
      refine ⟨hpa, ?_⟩
      show (m.control.apply call).stopped = false
      cases call with
      | pause => simp [Control.apply, Control.pause, hst]
      | resume | stop => cases hpa
    | _ => simp [hphase] at hi

theorem Rests.stopping (hr : m.Rests) (now : Moment) : (m.stopping now).Rests := by
  refine ⟨?_, ?_⟩
  · rw [stopping_closings, stopping_phase]
    exact hr.closings
  · rw [stopping_phase, stopping_control]
    exact hr.asleep

theorem Rests.heard {s : Signal} {ph : Phase} (hr : m.Rests) (hh : m.phase.Hears s ph) : { m with phase := ph }.Rests := by
  have hcl := hr.closings
  generalize m.phase = ph₀ at hcl hh
  cases hh <;> exact ⟨hcl, fun _ hi => by cases hi⟩

/-- A run is at rest between signals until it ends, and if it is stopped before, beyond its end. -/
theorem receive_rests (h : m.phase ≠ .finished → m.Inv p c) (hr : m.Rests) (now : Moment) {s : Signal}
    (hs : s.isOfRun = true) : (m.receive now s).Rests ∨ (m.receive now s).phase = .finished ∧ c.stopped = false := by
  have hreceives := receive_receives h now hs
  generalize m.receive now s = m' at hreceives ⊢
  cases hreceives with
  | called call => exact .inl (hr.applyControl call)
  | halted => exact .inl ((hr.applyControl .stop).stopping now)
  | begun _ hready _ _ he hl =>
    have hz : m.closings = 0 := hr.closings.trans (by rw [hready]; rfl)
    exact he.loops.afterMove now hl hz
  | turned _ hi ht hl => exact (ht.loops hi).afterMove now hl (hr.closings.trans (closings_of_isReady hi))
  | heard hh => exact .inl (hr.heard hh)
  | closed _ hclosing => exact .inl ⟨hr.closings.trans (by rw [hclosing]; rfl), fun _ hi => by cases hi⟩
  | missed _ => exact .inl hr

end

/-! ## Whole runs -/

/-- What a run can have come to. -/
structure Reached (p : Plan) (m : Monitor) : Prop where
  plan : m.plan = p
  inv : m.phase ≠ .finished → m.Inv p m.control
  atRest : m.phase ≠ .finished → m.Rests

section
variable {m : Monitor} {p : Plan} {c : Control} {now : Instant} {id taskName : String}

theorem create_rests (hm : create now id taskName p c = .ok m) : m.Rests := by
  rw [create_eq hm]
  exact ⟨rfl, nofun⟩

theorem create_reached (hm : create now id taskName p c = .ok m) : m.Reached p := by
  have hinv := create_inv hm
  exact ⟨hinv.plan, fun _ => hinv.control ▸ hinv, fun _ => create_rests hm⟩

theorem Reached.receive (h : m.Reached p) (now : Moment) {s : Signal} (hs : s.isOfRun = true) :
    (m.receive now s).Reached p := by
  have hplan := (receive_fixed h.inv h.plan rfl now hs).1
  refine ⟨hplan, fun hn => ?_, fun hn => ?_⟩
  · have hopen : m.phase ≠ .finished := fun hph => hn (receive_finished hph now s)
    have hinv := receive_inv now (h.inv hopen) hopen hs
    exact hinv.control ▸ hinv
  · have hopen : m.phase ≠ .finished := fun hph => hn (receive_finished hph now s)
    rcases receive_rests h.inv (h.atRest hopen) now hs with hr | ⟨hfin, _⟩
    · exact hr
    · exact absurd hfin hn

theorem Reached.receiveAll (h : m.Reached p) (signals : List (Moment × Signal)) (hs : ∀ x ∈ signals, x.2.isOfRun = true) :
    (m.receiveAll signals).Reached p := by
  induction signals using List.reverseRecOn with
  | nil => exact h
  | append_singleton signals x ih =>
    rw [receiveAll_snoc]
    exact (ih fun y hy => hs y (by simp [hy])).receive x.1 (hs x (by simp))

end

end Monitor

end BrowserPilot
