import BrowserPilot.Proofs.Monitor.Settlement

/-!
# What a turn can do

Every move of the step loop that a run can come to, with the condition under
which it is made and the monitor it leaves. Laws of whole runs are read off
this list, one case for each move, and open no move again.
-/

namespace BrowserPilot.Monitor

/-- The monitor stands behind settled steps, with the steps in `post` to come. -/
def Before (m : Monitor) (post : List Step) (done : List StepStatus) : Prop :=
  ∃ pre, m.plan.steps = pre ++ post ∧ m.session.Cut pre post done (post.map StepStatus.ofStep)

/-- The run has come to `step`: its record is `st`, the records in `done` are
settled, and the steps in `post` have not been touched. -/
def At (m : Monitor) (step : Step) (post : List Step) (done : List StepStatus) (st : StepStatus) : Prop :=
  ∃ pre, m.plan.steps = pre ++ step :: post ∧ m.session.Cut pre (step :: post) done (st :: post.map StepStatus.ofStep)

/-- An attempt at the step to which the run has come. -/
structure Tries (m : Monitor) (a : Attempt) (step : Step) (post : List Step) (done : List StepStatus) (st : StepStatus) :
    Prop where
  here : m.At step post done st
  index : a.index = done.length
  number : st.retryCount + 1 = a.number
  fallback : a.fallback = (step.attempt a.number).2

/-- Going on behind the settled steps: there is none left, a stop or a pause
comes before the next one, or it begins. -/
inductive Enters (now : Moment) (m : Monitor) (done : List StepStatus) : List Step → Monitor × Next → Prop where
  | past : Enters now m done [] (m, .leave)
  | stopped {step : Step} {post : List Step} (hst : m.control.stopped = true) :
      Enters now m done (step :: post) (m.stopping now, .leave)
  | paused {step : Step} {post : List Step} (hst : m.control.stopped = false) (hpa : m.control.paused = true) :
      Enters now m done (step :: post) (m.pausing now done.length, .wait)
  | begun {step : Step} {post : List Step} (hst : m.control.stopped = false) (hpa : m.control.paused = false) :
      Enters now m done (step :: post)
        (m.attempting now step 1 done (StepStatus.ofStep step) (post.map StepStatus.ofStep), .wait)

/-- Settling a step with the record `st` and going on. -/
structure Advances (now : Moment) (m : Monitor) (post : List Step) (done : List StepStatus) (st : StepStatus)
    (r : Monitor × Next) : Prop where
  before : (m.settling now done st (post.map StepStatus.ofStep)).Before post (done ++ [st.closed now.wall])
  enters : Enters now (m.settling now done st (post.map StepStatus.ofStep)) (done ++ [st.closed now.wall]) post r

/-- Settling a step that has failed, which may be the end of the run. -/
inductive GivesUp (now : Moment) (m : Monitor) (post : List Step) (done : List StepStatus) (st : StepStatus) :
    Monitor × Next → Prop where
  | aborts (ha : m.plan.abortsOnFailure = true) :
      GivesUp now m post done st (m.settling now done st (post.map StepStatus.ofStep), .leave)
  | goesOn {r : Monitor × Next} (ha : m.plan.abortsOnFailure = false) (h : Advances now m post done st r) :
      GivesUp now m post done st r

/-- The outcome of an attempt is there, be it after a stop. -/
def Sees (m : Monitor) (a : Attempt) (o : Outcome) : Prop :=
  m.phase = .inFlight a (some o) ∨ ∃ expired, m.phase = .inGrace a (some o) expired

def gracing (now : Moment) (a : Attempt) (m : Monitor) : Monitor :=
  let m := (m.stopping now).emit now .sessionStopping [("grace_sec", .amount m.plan.grace)]
  { m.request now (.grace m.plan.grace) with phase := .inGrace a none false }

/-- What comes of a failed attempt. -/
inductive Fails (now : Moment) (m : Monitor) (a : Attempt) (step : Step) (post : List Step) (done : List StepStatus)
    (st : StepStatus) (e : StepFault) : Except Halt (Monitor × Next) → Prop where
  | skipped {r : Monitor × Next} (hi : step.policy.ignoresErrors = true)
      (h : Advances now m post done (st.faulted .skipped e.message ("error ignored: " ++ e.message)) r) :
      Fails now m a step post done st e (.ok r)
  | retrying {delay : Amount} (hi : step.policy.ignoresErrors = false) (hn : a.number ≤ step.policy.retries)
      (hst : m.control.stopped = false) (hd : m.plan.delay a.number e = .ok delay) :
      Fails now m a step post done st e
        (.ok ((m.failing done st (post.map StepStatus.ofStep) a e).backingOff now a step e delay, .wait))
  | undelayed {f : Fault} (hi : step.policy.ignoresErrors = false) (hn : a.number ≤ step.policy.retries)
      (hst : m.control.stopped = false) (hd : m.plan.delay a.number e = .error f) :
      Fails now m a step post done st e (.error ⟨m.failing done st (post.map StepStatus.ofStep) a e, f⟩)
  | exhausted {r : Monitor × Next} (hi : step.policy.ignoresErrors = false)
      (hn : step.policy.retries < a.number ∨ m.control.stopped = true)
      (h : GivesUp now (m.failing done st (post.map StepStatus.ofStep) a e) post done
        (st.faulted .failed e.message (failureLine a e)) r) :
      Fails now m a step post done st e (.ok r)

/-- What a turn can do. -/
inductive Turns (now : Moment) (m : Monitor) : Except Halt (Monitor × Next) → Prop where
  | idle (h : m.isReady = false) : Turns now m (.ok (m, .wait))
  | unparked {i : Nat} (hph : m.phase = .parked i true) (hst : m.control.stopped = true) :
      Turns now m (.ok (m.stopping now, .leave))
  | resumed {i : Nat} {step : Step} {post : List Step} {done : List StepStatus} (hph : m.phase = .parked i true)
      (hst : m.control.stopped = false) (hi : i = done.length) (h : m.At step post done (StepStatus.ofStep step)) :
      Turns now m (.ok ((m.resuming now).attempting now step 1 done (StepStatus.ofStep step)
        (post.map StepStatus.ofStep), .wait))
  | resumedPast {i : Nat} (hph : m.phase = .parked i true) (hst : m.control.stopped = false)
      (hi : m.plan.steps[i]? = none) : Turns now m (.ok (m.resuming now, .leave))
  | passed {a : Attempt} {step : Step} {post : List Step} {done : List StepStatus} {st st' : StepStatus} {o : Result}
      {r : Monitor × Next} (hs : m.Sees a (.finished o)) (h : m.Tries a step post done st) (hr : st.state = .running)
      (ho : st.store a.action.kind o = .ok st') (hn : Advances now m post done (st'.passed a.fallback) r) :
      Turns now m (.ok r)
  | unstored {a : Attempt} {step : Step} {post : List Step} {done : List StepStatus} {st : StepStatus} {o : Result}
      {f : Fault} (hs : m.Sees a (.finished o)) (h : m.Tries a step post done st) (hr : st.state = .running)
      (ho : st.store a.action.kind o = .error f) : Turns now m (.error ⟨m, f⟩)
  | lost {a : Attempt} {step : Step} {post : List Step} {done : List StepStatus} {st : StepStatus} {message : String}
      (hs : m.Sees a (.raised (.sessionInit message))) (h : m.Tries a step post done st) (hr : st.state = .running) :
      Turns now m (.error ⟨m, .sessionInit message⟩)
  | failed {a : Attempt} {step : Step} {post : List Step} {done : List StepStatus} {st : StepStatus} {f : Fault}
      {r : Except Halt (Monitor × Next)} (hs : m.Sees a (.raised f)) (hf : ∀ message, f ≠ .sessionInit message)
      (h : m.Tries a step post done st) (hr : st.state = .running)
      (hn : Fails now m a step post done st (f.asStepFault step.id) r) : Turns now m r
  | graced {a : Attempt} {step : Step} {post : List Step} {done : List StepStatus} {st : StepStatus}
      (hph : m.phase = .inFlight a none) (hst : m.control.stopped = true) (h : m.Tries a step post done st)
      (hr : st.state = .running) : Turns now m (.ok (m.gracing now a, .wait))
  | cancelled {a : Attempt} {step : Step} {post : List Step} {done : List StepStatus} {st : StepStatus}
      (hph : m.phase = .inGrace a none true) (h : m.Tries a step post done st) (hr : st.state = .running) :
      Turns now m (.ok (m.settling now done (st.faulted .failed "stopped" "stopped while running")
        (post.map StepStatus.ofStep), .leave))
  | deserted {a : Attempt} {slept : Bool} {step : Step} {post : List Step} {done : List StepStatus} {st : StepStatus}
      {r : Monitor × Next} (hph : m.phase = .backingOff a slept) (hst : m.control.stopped = true)
      (h : m.Tries a step post done st) (hf : st.state = .failed) (hn : GivesUp now (m.stopping now) post done st r) :
      Turns now m (.ok r)
  | retried {a : Attempt} {step : Step} {post : List Step} {done : List StepStatus} {st : StepStatus}
      (hph : m.phase = .backingOff a true) (hst : m.control.stopped = false) (h : m.Tries a step post done st)
      (hf : st.state = .failed) :
      Turns now m (.ok (m.attempting now step (a.number + 1) done st (post.map StepStatus.ofStep), .wait))

section
variable {m : Monitor}

/-! ## The moves of a turn -/

theorem Tries.of_attempts {p : Plan} {a : Attempt} {step : Step} {st : StepStatus} (hp : m.plan = p)
    (h : m.session.Attempts p a step st) : ∃ post done, m.Tries a step post done st := by
  obtain ⟨⟨pre, post, done, hpost, ha, hcut⟩, hn, hf⟩ := h
  exact ⟨post, done, ⟨pre, hp ▸ hpost, hcut⟩, ha, hn, hf⟩

theorem At.step_eq {step : Step} {post : List Step} {done : List StepStatus} {st : StepStatus}
    (h : m.At step post done st) : m.plan.steps[done.length]? = some step := by
  obtain ⟨pre, hpost, hcut⟩ := h
  exact hcut.step_eq hpost

theorem At.isOpen {step : Step} {post : List Step} {done : List StepStatus} {st : StepStatus}
    (h : m.At step post done st) : st.IsOpenFor step := by
  obtain ⟨pre, _, hcut⟩ := h
  exact (List.forall₂_cons.mp hcut.unsettled).1

theorem At.steps {step : Step} {post : List Step} {done : List StepStatus} {st : StepStatus}
    (h : m.At step post done st) : m.session.steps = done ++ st :: post.map StepStatus.ofStep := by
  obtain ⟨pre, _, hcut⟩ := h
  exact hcut.steps

theorem enterStep_enters (now : Moment) {post : List Step} {done : List StepStatus} (h : m.Before post done)
    (hs : m.session.StandsAt .running m.control.stopped) :
    ∃ r, m.enterStep now done.length = .ok r ∧ Enters now m done post r := by
  obtain ⟨pre, hpost, hcut⟩ := h
  have hi : m.plan.steps[done.length]? = post.head? := hcut.step_eq hpost
  cases post with
  | nil => exact ⟨_, enterStep_none now hi, .past⟩
  | cons step post =>
    cases hst : m.control.stopped with
    | true => exact ⟨_, enterStep_stopped hi now hst, .stopped hst⟩
    | false =>
      have hrun := hs.of_not_stopped hst
      cases hpa : m.control.paused with
      | true => exact ⟨_, enterStep_paused hi now hst hpa hrun.1, .paused hst hpa⟩
      | false =>
        refine ⟨_, ?_, .begun hst hpa⟩
        rw [enterStep_free hi now hst hpa]
        exact beginAttempt_eq hcut.steps now step 1 rfl rfl

section
variable {step : Step} {post : List Step} {done : List StepStatus} {st : StepStatus} (h : m.At step post done st)
  (hs : m.session.StandsAt .running m.control.stopped)
include h

theorem At.settling (now : Moment) {st' : StepStatus} (hst : (st'.closed now.wall).IsSettledFor step) :
    (m.settling now done st' (post.map StepStatus.ofStep)).Before post (done ++ [st'.closed now.wall]) := by
  obtain ⟨pre, hpost, hcut⟩ := h
  exact ⟨pre ++ [step], hpost.trans (by simp), hcut.settling now hst⟩

include hs

theorem enterStep_advances (now : Moment) {st' : StepStatus} (hst : (st'.closed now.wall).IsSettledFor step) :
    ∃ r, (m.settling now done st' (post.map StepStatus.ofStep)).enterStep now (done.length + 1) = .ok r ∧
      Advances now m post done st' r := by
  have hl : done.length + 1 = (done ++ [st'.closed now.wall]).length := by simp
  have hbefore := h.settling now hst
  obtain ⟨r, hr, hn⟩ := enterStep_enters now hbefore (settling_stands hs now done st' _)
  exact ⟨r, hl ▸ hr, hbefore, hn⟩

theorem giveUp_givesUp (now : Moment) (hst : (st.closed now.wall).IsSettledFor step) :
    ∃ r, m.giveUp now done.length = .ok r ∧ GivesUp now m post done st r := by
  rw [giveUp_eq h.steps now hst.state]
  cases ha : m.plan.abortsOnFailure with
  | true => exact ⟨_, rfl, .aborts ha⟩
  | false =>
    obtain ⟨r, hr, hadv⟩ := enterStep_advances h hs now hst
    exact ⟨r, hr, .goesOn ha hadv⟩

end

theorem At.failing {step : Step} {post : List Step} {done : List StepStatus} {st : StepStatus} (h : m.At step post done st)
    (a : Attempt) (e : StepFault) :
    (m.failing done st (post.map StepStatus.ofStep) a e).At step post done (st.faulted .failed e.message (failureLine a e)) := by
  obtain ⟨pre, hpost, hcut⟩ := h
  exact ⟨pre, hpost, hcut.replace ((List.forall₂_cons.mp hcut.unsettled).1.faulted _ _)⟩

theorem Before.stopping {post : List Step} {done : List StepStatus} (h : m.Before post done) (now : Moment) :
    (m.stopping now).Before post done := by
  obtain ⟨pre, hpost, hcut⟩ := h
  exact ⟨pre, (congrArg Plan.steps (stopping_plan now m)).trans hpost, stopping_cut now hcut⟩

theorem At.stopping {step : Step} {post : List Step} {done : List StepStatus} {st : StepStatus} (h : m.At step post done st)
    (now : Moment) : (m.stopping now).At step post done st := by
  obtain ⟨pre, hpost, hcut⟩ := h
  exact ⟨pre, (congrArg Plan.steps (stopping_plan now m)).trans hpost, stopping_cut now hcut⟩

section
variable {a : Attempt} {step : Step} {post : List Step} {done : List StepStatus} {st : StepStatus}
  (h : m.Tries a step post done st) (hs : m.session.StandsAt .running m.control.stopped)
include h hs

theorem failAttempt_fails (now : Moment) (hr : st.state = .running) (e : StepFault) :
    Fails now m a step post done st e (m.failAttempt now a step e) := by
  have hopen := h.here.isOpen
  cases hi : step.policy.ignoresErrors with
  | true =>
    have hset := hopen.closed_faulted now.wall (.inr rfl) e.message ("error ignored: " ++ e.message)
    obtain ⟨r, hn, hadv⟩ := enterStep_advances h.here hs now hset
    rw [failAttempt_ignored h.here.steps hopen.final hr now a h.index hi, hn]
    exact .skipped hi hadv
  | false =>
    rw [failAttempt_eq h.here.steps hopen.final hr now a h.index hi]
    split
    · rename_i hlt
      simp only [Bool.and_eq_true, decide_eq_true_eq, Bool.not_eq_true'] at hlt
      cases hd : m.plan.delay a.number e with
      | error f => exact .undelayed hi (by omega) hlt.2 hd
      | ok delay => exact .retrying hi (by omega) hlt.2 hd
    · rename_i hlt
      have hset := hopen.closed_faulted now.wall (.inl rfl) e.message (failureLine a e)
      obtain ⟨r, hn, hgive⟩ := giveUp_givesUp (h.here.failing a e) hs now hset
      rw [hn]
      refine .exhausted hi ?_ hgive
      cases hst : m.control.stopped with
      | true => exact .inr rfl
      | false =>
        simp only [hst, Bool.not_false, Bool.and_true, decide_eq_true_eq] at hlt
        exact .inl (by omega)

theorem settleAttempt_turns (now : Moment) (hr : st.state = .running) {o : Outcome} (ho : m.Sees a o) :
    Turns now m (m.settleAttempt now a o) := by
  have hopen := h.here.isOpen
  cases o with
  | finished o =>
    show Turns now m (m.passAttempt now a o)
    cases hstore : st.store a.action.kind o with
    | error f =>
      rw [passAttempt_error h.here.steps now a h.index hstore]
      exact .unstored ho h hr hstore
    | ok st' =>
      have hset := hopen.closed_passed now.wall hstore fun k hk => Step.attempt_fallback_lt (h.fallback.symm.trans hk)
      obtain ⟨r, hn, hadv⟩ := enterStep_advances h.here hs now hset
      rw [passAttempt_eq h.here.steps hopen.final hr now a h.index hstore, hn]
      exact .passed ho h hr hstore hadv
  | raised f =>
    by_cases hinit : ∃ message, f = .sessionInit message
    · obtain ⟨message, rfl⟩ := hinit
      exact .lost ho h hr
    · have hf : ∀ message, f ≠ .sessionInit message := fun message he => hinit ⟨message, he⟩
      have hi : m.plan.steps[a.index]? = some step := h.index ▸ h.here.step_eq
      rw [settleAttempt_raised now hi hf]
      exact .failed ho hf h hr (failAttempt_fails h hs now hr _)

theorem leaveBackoff_turns (now : Moment) {slept : Bool} (hph : m.phase = .backingOff a slept) (hf : st.state = .failed)
    (he : st.error.isSome = true) (hready : slept = true ∨ m.control.stopped = true) :
    Turns now m (m.leaveBackoff now a) := by
  have hopen := h.here.isOpen
  unfold leaveBackoff
  cases hst : m.control.stopped with
  | true =>
    -- the record has failed with its attempt and is final as it is
    have hset : (st.closed now.wall).IsSettledFor step := by
      refine ⟨rfl, by simp [StepStatus.closed, hf, StepState.isTerminal], ?_, hopen.retries, ?_⟩
      · simp [StepStatus.closed, hf, Option.ne_none_iff_isSome.mpr he]
      · intro k hk
        cases hopen.fallback.symm.trans hk
    have hs' : (m.stopping now).session.StandsAt .running (m.stopping now).control.stopped := by
      rw [stopping_control, hst]
      exact stopping_stands now (s := .running) rfl hs
    obtain ⟨r, hn, hgive⟩ := giveUp_givesUp (h.here.stopping now) hs' now hset
    simp only [if_true, markStopped_eq, ok_bind, h.index, hn]
    exact .deserted hph hst h hf hgive
  | false =>
    have hslept : slept = true := by simpa [hst] using hready
    subst hslept
    simp only [Bool.false_eq_true, if_false, h.index, h.here.step_eq]
    rw [beginAttempt_eq h.here.steps now step (a.number + 1) hopen.final (by rw [hf]; rfl)]
    exact .retried hph hst h hf

end

theorem leavePark_turns (now : Moment) {post : List Step} {done : List StepStatus} (h : m.Before post done)
    (hph : m.phase = .parked done.length true) (hs : m.session.StandsAt .paused m.control.stopped) :
    Turns now m (m.leavePark now done.length) := by
  obtain ⟨pre, hpost, hcut⟩ := h
  have hi : m.plan.steps[done.length]? = post.head? := hcut.step_eq hpost
  cases hst : m.control.stopped with
  | true =>
    rw [leavePark_stopped now _ hst]
    exact .unparked hph hst
  | false =>
    rw [leavePark_eq now _ hst (hs.of_not_stopped hst).1, hi]
    cases post with
    | nil => exact .resumedPast hph hst hi
    | cons step post =>
      simp only [List.head?_cons]
      rw [beginAttempt_eq (m := m.resuming now) hcut.steps now step 1 rfl rfl]
      exact .resumed hph hst rfl ⟨pre, hpost, hcut⟩

theorem grantGrace_eq (now : Moment) (a : Attempt) : m.grantGrace now a = .ok (m.gracing now a, .wait) := by
  unfold grantGrace
  rw [markStopped_eq]
  simp only [ok_bind, gracing, emit, request, stopping_plan]

/-- **What a turn can do.** Each turn of a run is one of these moves. -/
theorem takeTurn_turns {p : Plan} {c : Control} (h : m.Inv p c) (now : Moment) : Turns now m (m.takeTurn now) := by
  obtain ⟨rfl, rfl, hph⟩ := h
  unfold takeTurn
  cases hphase : m.phase with
  | parked i woken =>
    rw [hphase] at hph
    obtain ⟨hs, pre, post, done, hpost, rfl, hcut⟩ := hph
    cases woken with
    | true => exact leavePark_turns now ⟨pre, hpost, hcut⟩ hphase hs
    | false => exact .idle (by simp [isReady, hphase])
  | inFlight a o =>
    rw [hphase] at hph
    obtain ⟨hs, step, st, hr, hatt⟩ := hph
    obtain ⟨post, done, h⟩ := Tries.of_attempts rfl hatt
    cases o with
    | some o => exact settleAttempt_turns h hs now hr (.inl hphase)
    | none =>
      simp only
      split
      · rename_i hst
        rw [grantGrace_eq]
        exact .graced hphase hst h hr
      · rename_i hst
        exact .idle (by simpa [isReady, hphase] using hst)
  | inGrace a o expired =>
    rw [hphase] at hph
    obtain ⟨hs, step, st, hr, hatt⟩ := hph
    obtain ⟨post, done, h⟩ := Tries.of_attempts rfl hatt
    cases o with
    | some o => exact settleAttempt_turns h hs now hr (.inr ⟨expired, hphase⟩)
    | none =>
      cases expired with
      | true =>
        simp only
        rw [cancelAttempt_eq h.here.steps h.here.isOpen.final hr now a h.index]
        exact .cancelled hphase h hr
      | false => exact .idle (by simp [isReady, hphase])
  | backingOff a slept =>
    rw [hphase] at hph
    obtain ⟨hs, step, st, hf, he, _, hatt⟩ := hph
    obtain ⟨post, done, h⟩ := Tries.of_attempts rfl hatt
    simp only
    split
    · rename_i hready
      exact leaveBackoff_turns h hs now hphase hf he (by simpa using hready)
    · rename_i hready
      exact .idle (by simpa [isReady, hphase] using hready)
  | ready | closing | finished | raised f => exact .idle (by simp [isReady, hphase])

end

end BrowserPilot.Monitor
