import BrowserPilot.Proofs.Monitor.Effects
import BrowserPilot.Proofs.Schema.Inversion
import Mathlib.Data.List.Forall2

/-!
# Every run settles its session

An invariant for each phase of the monitor is kept by every signal. From it,
a run never raises a fault, whatever its primitives, its delays and whoever
pauses or stops it do, and the session it returns is settled for good.
-/

namespace BrowserPilot

/-! ## Settled and open records -/

namespace StepStatus

/-- The record that a run leaves of a step. -/
structure IsSettledFor (step : Step) (st : StepStatus) : Prop where
  final : st.final = true
  state : st.state.isTerminal = true
  error : st.error = none ↔ st.state = .success
  retries : st.retryCount ≤ step.policy.retries
  fallback : ∀ k, st.fallbackUsed = some k → st.state = .success ∧ k < step.fallbacks.length

/-- The record of a step that is not settled yet; winding up can fail it. -/
structure IsOpenFor (step : Step) (st : StepStatus) : Prop where
  final : st.final = false
  state : st.state.hasPassed = false
  retries : st.retryCount ≤ step.policy.retries
  fallback : st.fallbackUsed = none

theorem isOpenFor_ofStep (step : Step) : IsOpenFor step (ofStep step) :=
  ⟨rfl, rfl, Nat.zero_le _, rfl⟩

theorem IsOpenFor.isPending {step : Step} {st : StepStatus} (h : IsOpenFor step st) : st.isPending = true := by
  simp [StepStatus.isPending, h.final, h.state]

theorem IsSettledFor.isTerminal {step : Step} {st : StepStatus} (h : IsSettledFor step st) : st.isTerminal = true := by
  simp [StepStatus.isTerminal, h.final, h.state]

theorem IsOpenFor.begun {step : Step} {st : StepStatus} (h : IsOpenFor step st) (now : Instant) {number : Nat}
    (line : String) (hr : (st.counted number).retryCount ≤ step.policy.retries) :
    IsOpenFor step (st.begun now number line) := by
  have hcount : (st.counted number).final = false ∧ (st.counted number).fallbackUsed = none := by
    unfold StepStatus.counted
    split <;> exact ⟨h.final, h.fallback⟩
  exact ⟨hcount.1, rfl, hr, hcount.2⟩

theorem IsOpenFor.faulted {step : Step} {st : StepStatus} (h : IsOpenFor step st) (e line : String) :
    IsOpenFor step (st.faulted .failed e line) :=
  ⟨h.final, rfl, h.retries, h.fallback⟩

theorem IsOpenFor.closed_faulted {step : Step} {st : StepStatus} (h : IsOpenFor step st) (now : Instant) {s : StepState}
    (hs : s = .failed ∨ s = .skipped) (e line : String) : IsSettledFor step ((st.faulted s e line).closed now) where
  final := rfl
  state := by rcases hs with rfl | rfl <;> rfl
  error := by rcases hs with rfl | rfl <;> simp [closed, StepStatus.faulted, inState, logged, withError]
  retries := h.retries
  fallback k hk := by cases h.fallback.symm.trans hk

theorem IsOpenFor.closed_passed {step : Step} {st st' : StepStatus} (h : IsOpenFor step st) (now : Instant)
    {k : ActionKind} {r : Result} (hstore : st.store k r = .ok st') {fallback : Option Nat}
    (hf : ∀ j, fallback = some j → j < step.fallbacks.length) : IsSettledFor step ((st'.passed fallback).closed now) where
  final := rfl
  state := rfl
  error := by simp [closed, StepStatus.passed, credited, inState]
  retries := by
    rw [store_ok hstore]
    exact h.retries
  fallback j hj := ⟨rfl, hf j hj⟩

theorem IsOpenFor.abandoned {step : Step} {st : StepStatus} (h : IsOpenFor step st) (now : Instant) (reason : String) :
    IsSettledFor step (st.abandoned now reason) :=
  h.closed_faulted now (.inl rfl) _ _

end StepStatus

/-! ## A session cut in two -/

/-- The session of a run that has settled the steps `pre` with the records
`done`, and not the steps `post` with the records `rest`. -/
structure Session.Cut (s : Session) (pre post : List Step) (done rest : List StepStatus) : Prop where
  steps : s.steps = done ++ rest
  settled : List.Forall₂ StepStatus.IsSettledFor pre done
  unsettled : List.Forall₂ StepStatus.IsOpenFor post rest
  total : s.totalSteps = pre.length + post.length
  completed : s.completedSteps = done.countP fun st => st.state.hasPassed
  failed : s.failedSteps = done.countP fun st => st.state == .failed

namespace Session.Cut

variable {s : Session} {pre post : List Step} {done rest : List StepStatus}

theorem terminal (h : s.Cut pre post done rest) : ∀ st ∈ done, st.isTerminal = true := by
  intro st hst
  obtain ⟨i, hi, rfl⟩ := List.getElem_of_mem hst
  exact (h.settled.get (h.settled.length_eq ▸ hi) hi).isTerminal

theorem pending (h : s.Cut pre post done rest) : ∀ st ∈ rest, st.isPending = true := by
  intro st hst
  obtain ⟨i, hi, rfl⟩ := List.getElem_of_mem hst
  exact (h.unsettled.get (h.unsettled.length_eq ▸ hi) hi).isPending

theorem replace {step : Step} {st st' : StepStatus} (h : s.Cut pre (step :: post) done (st :: rest))
    (hst : st'.IsOpenFor step) : { s with steps := done ++ st' :: rest }.Cut pre (step :: post) done (st' :: rest) := by
  obtain ⟨h₁, h₂⟩ := List.forall₂_cons.mp h.unsettled
  exact ⟨rfl, h.settled, .cons hst h₂, h.total, h.completed, h.failed⟩

theorem settling {m : Monitor} {step : Step} {st st' : StepStatus} (h : m.session.Cut pre (step :: post) done (st :: rest))
    (now : Moment) (hst : (st'.closed now.wall).IsSettledFor step) :
    (m.settling now done st' rest).session.Cut (pre ++ [step]) post (done ++ [st'.closed now.wall]) rest := by
  have ht : st'.state.isTerminal = true := hst.state
  rw [Monitor.settling_session]
  refine ⟨by simp, ?_, (List.forall₂_cons.mp h.unsettled).2, ?_, ?_, ?_⟩
  · exact List.rel_append h.settled (.cons hst .nil)
  · rw [List.length_append]
    exact h.total.trans (by simp [Nat.add_assoc, Nat.add_comm 1])
  · rw [List.countP_append, ← h.completed]
    cases hs : st'.state <;> simp_all [StepStatus.closed, StepState.hasPassed, StepState.isTerminal]
  · rw [List.countP_append, ← h.failed]
    cases hs : st'.state <;> simp_all [StepStatus.closed, StepState.isTerminal]

theorem winding {m : Monitor} (now : Moment) (reason : String) (h : m.session.Cut pre post done rest) :
    (m.winding now reason done rest).session.Cut (pre ++ post) [] (done ++ rest.map (StepStatus.abandoned now.wall reason))
      [] := by
  have hset : List.Forall₂ StepStatus.IsSettledFor post (rest.map (StepStatus.abandoned now.wall reason)) :=
    List.forall₂_map_right_iff.mpr (h.unsettled.imp fun _ _ hst => hst.abandoned now.wall reason)
  rw [Monitor.winding_eq now reason rest done m h.steps]
  refine ⟨by simp, List.rel_append h.settled hset, .nil, ?_, ?_, ?_⟩
  · simpa using h.total
  · -- what is failed here counts as failed only
    have hz : (rest.map (StepStatus.abandoned now.wall reason)).countP (fun st => st.state.hasPassed) = 0 := by
      rw [List.countP_map]
      exact List.countP_eq_zero.mpr fun st _ => by simp [Function.comp]; rfl
    rw [List.countP_append, hz]
    exact h.completed
  · have hl : (rest.map (StepStatus.abandoned now.wall reason)).countP (fun st => st.state == .failed) = rest.length := by
      rw [List.countP_map]
      exact List.countP_eq_length.mpr fun st _ => rfl
    rw [List.countP_append, hl]
    exact congrArg (· + rest.length) h.failed

theorem whole (h : s.Cut pre [] done []) : s.Cut pre [] s.steps [] := by
  have hs : s.steps = done := by simpa using h.steps
  rw [hs]
  exact h

end Session.Cut

/-! ## The invariant -/

theorem Session.Cut.of_state {s : Session} {pre post : List Step} {done rest : List StepStatus}
    (h : s.Cut pre post done rest) {state : SessionState} : { s with state }.Cut pre post done rest :=
  ⟨h.steps, h.settled, h.unsettled, h.total, h.completed, h.failed⟩

theorem Session.Cut.step_eq {s : Session} {pre post steps : List Step} {done rest : List StepStatus}
    (h : s.Cut pre post done rest) (hp : steps = pre ++ post) : steps[done.length]? = post.head? := by
  rw [hp, ← h.settled.length_eq, List.getElem?_append_right (Nat.le_refl _), Nat.sub_self]
  cases post <;> rfl

/-- The session stands at a state, unless a stop has failed it. -/
def Session.StandsAt (state : SessionState) (stopped : Bool) (s : Session) : Prop :=
  (s.state = state ∧ s.endedAt = none) ∨ (s.state = .failed ∧ s.endedAt.isSome = true ∧ stopped = true)

theorem Session.StandsAt.of_not_stopped {state : SessionState} {b : Bool} {s : Session} (h : s.StandsAt state b)
    (hb : b = false) : s.state = state ∧ s.endedAt = none := by
  rcases h with h | ⟨_, _, h⟩
  · exact h
  · exact absurd (hb ▸ h) (by decide)

structure Session.Attempts (p : Plan) (s : Session) (a : Attempt) (step : Step) (st : StepStatus) : Prop where
  split : ∃ pre post done, p.steps = pre ++ step :: post ∧ a.index = done.length ∧
    s.Cut pre (step :: post) done (st :: post.map StepStatus.ofStep)
  number : st.retryCount + 1 = a.number
  fallback : a.fallback = (step.attempt a.number).2

/-- The session is settled, and its last state is what its steps and the token say. -/
structure Session.IsOver (p : Plan) (stopped : Bool) (s : Session) : Prop where
  cut : s.Cut p.steps [] s.steps []
  ended : s.endedAt.isSome = true
  state : s.state = if (s.steps.all fun st => st.state.hasPassed) && !stopped then .completed else .failed

/-- What a run leaves of a session for steps, if it was stopped or not. -/
structure Session.IsSettled (steps : List Step) (stopped : Bool) (s : Session) : Prop where
  records : List.Forall₂ StepStatus.IsSettledFor steps s.steps
  completed : s.completedSteps = s.steps.countP fun st => st.state.hasPassed
  failed : s.failedSteps = s.steps.countP fun st => st.state == .failed
  total : s.completedSteps + s.failedSteps = s.totalSteps
  ended : s.endedAt.isSome = true
  state : s.state = if (s.steps.all fun st => st.state.hasPassed) && !stopped then .completed else .failed

theorem StepStatus.countP_settled {l : List StepStatus} (h : ∀ st ∈ l, st.isTerminal = true) :
    l.countP (fun st => st.state.hasPassed) + l.countP (fun st => st.state == .failed) = l.length := by
  have hlen := List.length_eq_countP_add_countP (fun st : StepStatus => st.state.hasPassed) (l := l)
  have hfail : l.countP (fun st => st.state == .failed) = l.countP fun st => !st.state.hasPassed := by
    refine List.countP_congr fun st hst => ?_
    have ht := h st hst
    cases hs : st.state <;> simp_all [StepStatus.isTerminal, StepState.isTerminal, StepState.hasPassed]
  rw [hfail]
  simpa using hlen.symm

theorem Session.IsOver.isSettled {p : Plan} {b : Bool} {s : Session} (h : s.IsOver p b) : s.IsSettled p.steps b where
  records := h.cut.settled
  completed := h.cut.completed
  failed := h.cut.failed
  total := by
    rw [h.cut.completed, h.cut.failed, StepStatus.countP_settled h.cut.terminal, h.cut.total, List.length_nil, Nat.add_zero,
      h.cut.settled.length_eq]
  ended := h.ended
  state := h.state

theorem Session.IsOver.isTerminal {p : Plan} {b : Bool} {s : Session} (h : s.IsOver p b) : s.isTerminal = true := by
  rw [Session.isTerminal, h.state]
  split <;> rfl

namespace Monitor

/-- What holds in a phase of a monitor with plan `p` and token `c`. -/
def PhaseInv (p : Plan) (c : Control) (m : Monitor) : Phase → Prop
  | .ready => m.isFinished = false ∧ m.session.StandsAt .running c.stopped ∧
      m.session.Cut [] p.steps [] (p.steps.map StepStatus.ofStep)
  | .parked i _ => m.session.StandsAt .paused c.stopped ∧ ∃ pre post done, p.steps = pre ++ post ∧ i = done.length ∧
      m.session.Cut pre post done (post.map StepStatus.ofStep)
  | .inFlight a _ | .inGrace a _ _ => m.session.StandsAt .running c.stopped ∧
      ∃ step st, st.state = .running ∧ m.session.Attempts p a step st
  | .backingOff a _ => m.session.StandsAt .running c.stopped ∧
      ∃ step st, st.state = .failed ∧ st.error.isSome = true ∧ a.number ≤ step.policy.retries ∧
        m.session.Attempts p a step st
  | .closing => c.stopped = true ∧ m.session.IsOver p c.stopped
  | .finished => m.session.IsOver p c.stopped
  | .raised _ => False

structure Inv (p : Plan) (c : Control) (m : Monitor) : Prop where
  plan : m.plan = p
  control : m.control = c
  phase : m.PhaseInv p c m.phase

/-- What holds of a monitor that leaves the step loop. -/
structure Leaves (p : Plan) (c : Control) (m : Monitor) : Prop where
  plan : m.plan = p
  control : m.control = c
  stands : m.session.StandsAt .running c.stopped
  split : ∃ pre post done rest, p.steps = pre ++ post ∧ m.session.Cut pre post done rest

/-- What a move of the step loop has to come to. -/
def Lands (p : Plan) (c : Control) : Except Halt (Monitor × Next) → Prop
  | .ok (m, .wait) => m.Inv p c
  | .ok (m, .leave) => m.Leaves p c
  | .error h => h.monitor.Leaves p c

/-! ## Moves keep the invariant -/

section
variable {p : Plan} {c : Control} {m : Monitor}

theorem concluding_isOver (now : Moment) {done : List StepStatus} (hc : m.control = c)
    (hs : m.session.StandsAt .running c.stopped) (hcut : m.session.Cut p.steps [] done []) :
    (m.concluding now).session.IsOver p c.stopped := by
  have hw := hcut.whole
  rcases hs with ⟨hr, _⟩ | ⟨hf, he, hst⟩
  · have ht : m.session.isTerminal = false := by simp [Session.isTerminal, hr, SessionState.isTerminal]
    simp only [concluding, ht, Bool.false_eq_true, if_false]
    refine ⟨⟨hw.steps, hw.settled, hw.unsettled, hw.total, hw.completed, hw.failed⟩, rfl, ?_⟩
    simp [lastState, hr, hc]
  · have ht : m.session.isTerminal = true := by simp [Session.isTerminal, hf, SessionState.isTerminal]
    -- the stop has given the session its last state already
    simp only [concluding, ht, if_true]
    exact ⟨hw, he, by simp [hf, hst]⟩

theorem ending_inv (now : Moment) {pre post : List Step} {done rest : List StepStatus} (hm : m.Leaves p c)
    (hp : p.steps = pre ++ post) (hcut : m.session.Cut pre post done rest) : (m.ending now done rest).Inv p c := by
  let m₀ : Monitor := { m with isFinished := true }
  let w := m₀.winding now notExecuted done rest
  have hw := winding_eq now notExecuted rest done m₀ hcut.steps
  have hwp : w.plan = p := (congrArg Monitor.plan hw).trans hm.plan
  have hwc : w.control = c := (congrArg Monitor.control hw).trans hm.control
  have hws : w.session.StandsAt .running c.stopped := by
    simp only [Session.StandsAt, w]
    rw [hw]
    exact hm.stands
  have hwcut : w.session.Cut p.steps [] _ [] := hp ▸ Session.Cut.winding (m := m₀) now notExecuted hcut
  have hover := concluding_isOver now hwc hws hwcut
  have hcc : (w.concluding now).control = c := by unfold concluding; split <;> exact hwc
  have hcp : (w.concluding now).plan = p := by unfold concluding; split <;> exact hwp
  change (if (w.concluding now).control.stopped then
    { (w.concluding now).request now .closeBrowser with phase := .closing } else (w.concluding now).announceEnd now).Inv p c
  rw [hcc]
  by_cases hst : c.stopped = true
  · rw [if_pos hst]
    exact ⟨hcp, hcc, hst, hover⟩
  · rw [if_neg hst]
    exact ⟨hcp, hcc, hover⟩

/-- Once every open record is failed for a reason the end of the run finds none. -/
theorem failRemaining_finish (now : Moment) (reason : String) {pre post : List Step} {done rest : List StepStatus}
    (hcut : m.session.Cut pre post done rest) : orRaised ((failRemaining now reason m).bind (finish now)) =
      (m.winding now reason done rest).ending now (done ++ rest.map (StepStatus.abandoned now.wall reason)) [] := by
  have hwound := hcut.winding now reason
  rw [failRemaining_eq hcut.steps hcut.terminal hcut.pending now reason]
  simp only [Except.bind, finish_eq hwound.steps hwound.terminal hwound.pending now, orRaised]

theorem recover_ok (now : Moment) {h : Halt} (hm : h.monitor.Leaves p c) :
    ∃ m' done, recover now h = .ok m' ∧ m'.Leaves p c ∧ m'.session.Cut p.steps [] done [] := by
  obtain ⟨pre, post, done, rest, hp, hcut⟩ := hm.split
  let m₀ := h.monitor.emit now .error [("error", .str h.fault.message)]
  have hw := winding_eq now (reasonOf h.fault) rest done m₀ hcut.steps
  have hcut' := hp ▸ Session.Cut.winding (m := m₀) now (reasonOf h.fault) hcut
  refine ⟨_, _, failRemaining_eq (m := m₀) hcut.steps hcut.terminal hcut.pending now _, ?_, hcut'⟩
  refine ⟨(congrArg Monitor.plan hw).trans hm.plan, (congrArg Monitor.control hw).trans hm.control, ?_,
    p.steps, [], _, [], by simp, hcut'⟩
  simp only [Session.StandsAt]
  rw [hw]
  exact hm.stands

/-- A move that lands well keeps the invariant, also when it ends the run. -/
theorem afterMove_inv (now : Moment) {r : Except Halt (Monitor × Next)} (h : Lands p c r) : (afterMove now r).Inv p c := by
  match r, h with
  | .ok (m, .wait), h => exact h
  | .ok (m, .leave), h =>
    obtain ⟨pre, post, done, rest, hp, hcut⟩ := h.split
    simp only [afterMove, finish_eq hcut.steps hcut.terminal hcut.pending, orRaised]
    exact ending_inv now h hp hcut
  | .error h, hl =>
    -- the halt has failed all that was left, so the end of the run finds nothing to fail
    obtain ⟨m', done, hr, hm', hcut⟩ := recover_ok now hl
    simp only [afterMove, hr, Except.bind, finish_eq hcut.steps hcut.terminal hcut.pending, orRaised]
    exact ending_inv now hm' (by simp) hcut

theorem stopping_stands (now : Moment) {s s' : SessionState} {b : Bool} (hs : s.isTerminal = false)
    (h : m.session.StandsAt s b) : (m.stopping now).session.StandsAt s' true := by
  unfold stopping
  rcases h with ⟨hr, _⟩ | ⟨hf, he, _⟩
  · have ht : m.session.isTerminal = false := by rw [Session.isTerminal, hr, hs]
    rw [if_neg (by simp [ht])]
    exact .inr ⟨rfl, rfl, rfl⟩
  · have ht : m.session.isTerminal = true := by rw [Session.isTerminal, hf]; rfl
    rw [if_pos ht]
    exact .inr ⟨hf, he, rfl⟩

theorem stopping_cut (now : Moment) {pre post : List Step} {done rest : List StepStatus}
    (h : m.session.Cut pre post done rest) : (m.stopping now).session.Cut pre post done rest := by
  unfold stopping
  split
  · exact h
  · exact ⟨h.steps, h.settled, h.unsettled, h.total, h.completed, h.failed⟩

theorem stopping_leaves (now : Moment) (hp : m.plan = p) (hc : m.control = c) (hst : c.stopped = true) {s : SessionState}
    (hs : s.isTerminal = false) (hstands : m.session.StandsAt s c.stopped) {pre post : List Step}
    {done rest : List StepStatus} (hpost : p.steps = pre ++ post) (hcut : m.session.Cut pre post done rest) :
    (m.stopping now).Leaves p c where
  plan := by unfold stopping; split <;> exact hp
  control := by unfold stopping; split <;> exact hc
  stands := hst ▸ stopping_stands now hs hstands
  split := ⟨pre, post, done, rest, hpost, stopping_cut now hcut⟩

/-! ### Starting attempts -/

section
variable (hp : m.plan = p) (hc : m.control = c)
include hp hc

theorem beginAttempt_lands (now : Moment) (hs : m.session.StandsAt .running c.stopped) {pre post : List Step} {step : Step}
    {done : List StepStatus} {st : StepStatus} {number : Nat} (hpost : p.steps = pre ++ step :: post)
    (hcut : m.session.Cut pre (step :: post) done (st :: post.map StepStatus.ofStep))
    (hst : st.state.canBecome .running = true) (hn : (st.counted number).retryCount + 1 = number)
    (hr : number ≤ step.policy.retries + 1) : Lands p c (m.beginAttempt now done.length step number) := by
  have hopen := (List.forall₂_cons.mp hcut.unsettled).1
  rw [beginAttempt_eq hcut.steps now step number hopen.final hst]
  refine ⟨hp, hc, hs, step, _, rfl, ⟨pre, post, done, hpost, rfl, hcut.replace ?_⟩, hn, rfl⟩
  exact hopen.begun now.wall _ (by omega)

theorem enterStep_lands (now : Moment) (hs : m.session.StandsAt .running c.stopped) {pre post : List Step}
    {done : List StepStatus} (hpost : p.steps = pre ++ post)
    (hcut : m.session.Cut pre post done (post.map StepStatus.ofStep)) : Lands p c (m.enterStep now done.length) := by
  have hi : m.plan.steps[done.length]? = post.head? := hcut.step_eq (hp ▸ hpost)
  cases post with
  | nil =>
    rw [enterStep_none now hi]
    exact ⟨hp, hc, hs, pre, [], done, [], hpost, hcut⟩
  | cons step post =>
    cases hst : c.stopped with
    | true =>
      rw [enterStep_stopped hi now (hc ▸ hst)]
      exact stopping_leaves now hp hc hst rfl hs hpost hcut
    | false =>
      have hrun := hs.of_not_stopped hst
      cases hpause : c.paused with
      | true =>
        rw [enterStep_paused hi now (hc ▸ hst) (hc ▸ hpause) hrun.1]
        exact ⟨hp, hc, .inl ⟨rfl, hrun.2⟩, pre, step :: post, done, hpost, rfl, hcut.of_state⟩
      | false =>
        rw [enterStep_free hi now (hc ▸ hst) (hc ▸ hpause)]
        exact beginAttempt_lands hp hc now hs hpost hcut rfl rfl (by omega)

end

/-! ### Ending attempts -/

theorem settling_stands {b : Bool} (hs : m.session.StandsAt .running b) (now : Moment) (done : List StepStatus)
    (st : StepStatus) (rest : List StepStatus) : (m.settling now done st rest).session.StandsAt .running b := by
  simp only [Session.StandsAt, settling_session]
  exact hs

section
variable (hp : m.plan = p) (hc : m.control = c) (hs : m.session.StandsAt .running c.stopped)
variable {pre post : List Step} {step : Step} {done : List StepStatus} {st : StepStatus}
  (hpost : p.steps = pre ++ step :: post)
  (hcut : m.session.Cut pre (step :: post) done (st :: post.map StepStatus.ofStep))
include hp hc hs hpost hcut

theorem next_lands (now : Moment) {st' : StepStatus} (hst : (st'.closed now.wall).IsSettledFor step) :
    Lands p c ((m.settling now done st' (post.map StepStatus.ofStep)).enterStep now (done.length + 1)) := by
  have hl : done.length + 1 = (done ++ [st'.closed now.wall]).length := by simp
  rw [hl]
  have hpost' : p.steps = (pre ++ [step]) ++ post := by simp [hpost]
  exact enterStep_lands (m := m.settling now done st' _) hp hc now (settling_stands hs now done st' _) hpost'
    (hcut.settling now hst)

theorem settled_leaves (now : Moment) {st' : StepStatus} (hst : (st'.closed now.wall).IsSettledFor step) :
    (m.settling now done st' (post.map StepStatus.ofStep)).Leaves p c :=
  ⟨hp, hc, settling_stands hs now done st' _, pre ++ [step], post, _, _, by simp [hpost], hcut.settling now hst⟩

theorem giveUp_lands (now : Moment) (hst : (st.closed now.wall).IsSettledFor step) :
    Lands p c (m.giveUp now done.length) := by
  rw [giveUp_eq hcut.steps now hst.state]
  split
  · exact settled_leaves hp hc hs hpost hcut now hst
  · exact next_lands hp hc hs hpost hcut now hst

theorem leaves_here : m.Leaves p c := ⟨hp, hc, hs, pre, step :: post, done, _, hpost, hcut⟩

variable {a : Attempt} (ha : a.index = done.length) (hr : st.state = .running)
include ha hr

theorem cancelAttempt_lands (now : Moment) : Lands p c (m.cancelAttempt now a) := by
  have hopen := (List.forall₂_cons.mp hcut.unsettled).1
  rw [cancelAttempt_eq hcut.steps hopen.final hr now a ha]
  exact settled_leaves hp hc hs hpost hcut now (hopen.closed_faulted now.wall (.inl rfl) _ _)

theorem passAttempt_lands (now : Moment) (r : Result) (hf : a.fallback = (step.attempt a.number).2) :
    Lands p c (m.passAttempt now a r) := by
  have hopen := (List.forall₂_cons.mp hcut.unsettled).1
  cases hstore : st.store a.action.kind r with
  | error e =>
    rw [passAttempt_error hcut.steps now a ha hstore]
    exact leaves_here hp hc hs hpost hcut
  | ok st' =>
    rw [passAttempt_eq hcut.steps hopen.final hr now a ha hstore]
    refine next_lands hp hc hs hpost hcut now (hopen.closed_passed now.wall hstore fun k hk => ?_)
    exact Step.attempt_fallback_lt (hf ▸ hk)

theorem failAttempt_lands (now : Moment) (e : StepFault) (hn : st.retryCount + 1 = a.number)
    (hf : a.fallback = (step.attempt a.number).2) : Lands p c (m.failAttempt now a step e) := by
  have hopen := (List.forall₂_cons.mp hcut.unsettled).1
  by_cases hi : step.policy.ignoresErrors = true
  · rw [failAttempt_ignored hcut.steps hopen.final hr now a ha hi]
    exact next_lands hp hc hs hpost hcut now (hopen.closed_faulted now.wall (.inr rfl) _ _)
  · have hi : step.policy.ignoresErrors = false := by simpa using hi
    have hcut' := hcut.replace (hopen.faulted e.message (failureLine a e))
    have hcl := hopen.closed_faulted now.wall (.inl rfl) e.message (failureLine a e)
    rw [failAttempt_eq hcut.steps hopen.final hr now a ha hi]
    split
    · rename_i hlt
      have hlt : a.number ≤ step.policy.retries := by
        simp only [Bool.and_eq_true, decide_eq_true_eq] at hlt
        omega
      split
      · exact ⟨hp, hc, hs, pre, step :: post, done, _, hpost, hcut'⟩
      · exact ⟨hp, hc, hs, step, _, rfl, rfl, hlt, ⟨pre, post, done, hpost, ha, hcut'⟩, hn, hf⟩
    · exact giveUp_lands (m := m.failing done st _ a e) hp hc hs hpost hcut' now hcl

theorem settleAttempt_lands (now : Moment) (o : Outcome) (hn : st.retryCount + 1 = a.number)
    (hf : a.fallback = (step.attempt a.number).2) : Lands p c (m.settleAttempt now a o) := by
  have hi : m.plan.steps[a.index]? = some step := ha ▸ hcut.step_eq (hp ▸ hpost)
  match o with
  | .finished r => exact passAttempt_lands hp hc hs hpost hcut ha hr now r hf
  | .raised (.sessionInit message) => exact leaves_here hp hc hs hpost hcut
  | .raised (.step f) | .raised (.illegalTransition _ _) | .raised (.general _) | .raised (.browser _ _)
  | .raised (.foreign _ _) =>
    simp only [settleAttempt, hi]
    exact failAttempt_lands hp hc hs hpost hcut ha hr now _ hn hf

end

/-! ### Turns -/

theorem stopping_attempts (now : Moment) {a : Attempt} {step : Step} {st : StepStatus}
    (h : m.session.Attempts p a step st) : (m.stopping now).session.Attempts p a step st := by
  obtain ⟨⟨pre, post, done, hpost, ha, hcut⟩, hn, hf⟩ := h
  exact ⟨⟨pre, post, done, hpost, ha, stopping_cut now hcut⟩, hn, hf⟩

theorem stopping_plan (now : Moment) (m : Monitor) : (m.stopping now).plan = m.plan := by
  unfold stopping; split <;> rfl

theorem stopping_control (now : Moment) (m : Monitor) : (m.stopping now).control = m.control := by
  unfold stopping; split <;> rfl

section
variable (hp : m.plan = p) (hc : m.control = c)
include hp hc

theorem leavePark_lands (now : Moment) (hs : m.session.StandsAt .paused c.stopped) {pre post : List Step}
    {done : List StepStatus} (hpost : p.steps = pre ++ post)
    (hcut : m.session.Cut pre post done (post.map StepStatus.ofStep)) : Lands p c (m.leavePark now done.length) := by
  have hi : m.plan.steps[done.length]? = post.head? := hcut.step_eq (hp ▸ hpost)
  cases hst : c.stopped with
  | true =>
    rw [leavePark_stopped now _ (hc ▸ hst)]
    exact stopping_leaves now hp hc hst rfl hs hpost hcut
  | false =>
    have hpau := hs.of_not_stopped hst
    have hs' : (m.resuming now).session.StandsAt .running c.stopped := .inl ⟨rfl, hpau.2⟩
    rw [leavePark_eq now _ (hc ▸ hst) hpau.1, hi]
    cases post with
    | nil => exact ⟨hp, hc, hs', pre, [], done, [], hpost, hcut.of_state⟩
    | cons step post =>
      exact beginAttempt_lands (m := m.resuming now) hp hc now hs' hpost hcut.of_state rfl rfl (by omega)

theorem leaveBackoff_lands (now : Moment) (hs : m.session.StandsAt .running c.stopped) {a : Attempt} {step : Step}
    {st : StepStatus} (hst : st.state = .failed) (he : st.error.isSome = true) (hn : a.number ≤ step.policy.retries)
    (h : m.session.Attempts p a step st) : Lands p c (m.leaveBackoff now a) := by
  obtain ⟨⟨pre, post, done, hpost, ha, hcut⟩, hnum, hf⟩ := h
  have hopen := (List.forall₂_cons.mp hcut.unsettled).1
  have hi : m.plan.steps[a.index]? = some step := ha ▸ hcut.step_eq (hp ▸ hpost)
  unfold leaveBackoff
  rw [hc, ha]
  by_cases hstop : c.stopped = true
  · -- the record has failed with its attempt and is final as it is
    have hcl : (st.closed now.wall).IsSettledFor step := by
      refine ⟨rfl, by simp [StepStatus.closed, hst, StepState.isTerminal], ?_, hopen.retries, ?_⟩
      · simp [StepStatus.closed, hst, Option.ne_none_iff_isSome.mpr he]
      · intro k hk
        cases hopen.fallback.symm.trans hk
    simp only [hstop, if_true, markStopped_eq, ok_bind]
    exact giveUp_lands (m := m.stopping now) ((stopping_plan now m).trans hp) ((stopping_control now m).trans hc)
      (hstop ▸ stopping_stands now (s := .running) rfl hs) hpost (stopping_cut now hcut) now hcl
  · have hne : a.number + 1 ≠ 1 := by omega
    simp only [hstop, Bool.false_eq_true, if_false, ← ha, hi]
    rw [ha]
    exact beginAttempt_lands hp hc now hs hpost hcut (by rw [hst]; rfl)
      (by simp only [StepStatus.counted, if_neg hne, hnum]) (by omega)

end

theorem grantGrace_lands (hp : m.plan = p) (hc : m.control = c) (now : Moment) (hst : c.stopped = true)
    (hs : m.session.StandsAt .running c.stopped) {a : Attempt} {step : Step} {st : StepStatus} (hr : st.state = .running)
    (h : m.session.Attempts p a step st) : Lands p c (m.grantGrace now a) := by
  unfold grantGrace
  rw [markStopped_eq]
  exact ⟨(stopping_plan now m).trans hp, (stopping_control now m).trans hc,
    hst ▸ stopping_stands now (s := .running) rfl hs, step, st, hr, stopping_attempts now h⟩

/-- **A turn keeps the invariant.** Whatever the monitor waits for. -/
theorem takeTurn_lands (h : m.Inv p c) (now : Moment) : Lands p c (m.takeTurn now) := by
  have hwait : Lands p c (.ok (m, .wait)) := h
  obtain ⟨hp, hc, hph⟩ := h
  unfold takeTurn
  cases hphase : m.phase with
  | parked i woken =>
    rw [hphase] at hph
    obtain ⟨hs, pre, post, done, hpost, rfl, hcut⟩ := hph
    cases woken with
    | true => exact leavePark_lands hp hc now hs hpost hcut
    | false => exact hwait
  | inFlight a o =>
    rw [hphase] at hph
    obtain ⟨hs, step, st, hr, h⟩ := hph
    cases o with
    | some o =>
      obtain ⟨⟨pre, post, done, hpost, ha, hcut⟩, hn, hf⟩ := h
      exact settleAttempt_lands hp hc hs hpost hcut ha hr now o hn hf
    | none =>
      simp only
      split
      · rename_i hst
        exact grantGrace_lands hp hc now (hc ▸ hst) hs hr h
      · exact hwait
  | inGrace a o expired =>
    rw [hphase] at hph
    obtain ⟨hs, step, st, hr, ⟨pre, post, done, hpost, ha, hcut⟩, hn, hf⟩ := hph
    cases o with
    | some o => exact settleAttempt_lands hp hc hs hpost hcut ha hr now o hn hf
    | none =>
      cases expired with
      | true => exact cancelAttempt_lands hp hc hs hpost hcut ha hr now
      | false => exact hwait
  | backingOff a slept =>
    rw [hphase] at hph
    obtain ⟨hs, step, st, hst, he, hn, h⟩ := hph
    simp only
    split
    · exact leaveBackoff_lands hp hc now hs hst he hn h
    · exact hwait
  | ready | closing | finished | raised f => exact hwait

end

end Monitor

/-! ## Signals keep the invariant -/

/-- The signals of a run, as opposed to failing the session from outside. -/
def Signal.isOfRun : Signal → Bool
  | .fail _ => false
  | _ => true

def Signal.asksStop : Signal → Bool
  | .control .stop | .stop => true
  | _ => false

def Control.after (s : Signal) (c : Control) : Control :=
  match s with
  | .control call => c.apply call
  | .stop => c.stop
  | _ => c

theorem Control.after_stopped (s : Signal) (c : Control) : (c.after s).stopped = (c.stopped || s.asksStop) := by
  match s with
  | .control .pause =>
    simp only [Control.after, Control.apply, Control.pause, Signal.asksStop, Bool.or_false]
    split <;> rfl
  | .control .resume | .start | .fail _ | .outcome _ | .timeUp | .turn | .closed => exact (Bool.or_false _).symm
  | .control .stop | .stop => exact (Bool.or_true _).symm

def Control.afterAll (signals : List (Moment × Signal)) (c : Control) : Control :=
  signals.foldl (fun c x => c.after x.2) c

theorem Control.afterAll_stopped (signals : List (Moment × Signal)) : ∀ c : Control,
    (c.afterAll signals).stopped = (c.stopped || signals.any (·.2.asksStop)) := by
  induction signals with
  | nil => exact fun c => (Bool.or_false _).symm
  | cons x signals ih =>
    intro c
    rw [afterAll, List.foldl_cons, List.any_cons, ← Bool.or_assoc, ← Control.after_stopped]
    exact ih (c.after x.2)

namespace Monitor

section
variable {p : Plan} {c c' : Control} {m m' : Monitor}

/-- As long as the run is not over, a token that is stopped later fits as well. -/
theorem PhaseInv.mono {ph : Phase} (h : m.PhaseInv p c ph) (hs : m'.session = m.session)
    (hf : m'.isFinished = m.isFinished) (hc : c.stopped = true → c'.stopped = true) (hn : ph ≠ .finished) :
    m'.PhaseInv p c' ph := by
  have hstands : ∀ {state}, m.session.StandsAt state c.stopped → m'.session.StandsAt state c'.stopped := by
    intro state h
    rw [hs]
    exact h.imp_right fun ⟨h₁, h₂, h₃⟩ => ⟨h₁, h₂, hc h₃⟩
  match ph, h with
  | .ready, ⟨h₁, h₂, h₃⟩ => exact ⟨hf.trans h₁, hstands h₂, hs ▸ h₃⟩
  | .parked _ _, ⟨h₁, h₂⟩ => exact ⟨hstands h₁, hs ▸ h₂⟩
  | .inFlight _ _, ⟨h₁, h₂⟩ | .inGrace _ _ _, ⟨h₁, h₂⟩ => exact ⟨hstands h₁, hs ▸ h₂⟩
  | .backingOff _ _, ⟨h₁, h₂⟩ => exact ⟨hstands h₁, hs ▸ h₂⟩
  | .closing, ⟨h₁, h₂⟩ =>
    refine ⟨hc h₁, ?_⟩
    rw [hs, hc h₁, ← h₁]
    exact h₂

theorem applyControl_inv (h : m.Inv p c) (hn : m.phase ≠ .finished) (call : ControlCall) :
    (m.applyControl call).Inv p (c.apply call) := by
  have hc : c.stopped = true → (c.apply call).stopped = true := fun hst => by
    rw [show c.apply call = c.after (.control call) from rfl, Control.after_stopped, hst, Bool.true_or]
  have hph := h.phase.mono (show (m.applyControl call).session = m.session from rfl) rfl hc hn
  refine ⟨h.plan, congrArg (Control.apply call) h.control, ?_⟩
  cases hphase : m.phase <;> simp only [hphase, applyControl] at hph ⊢ <;> exact hph

theorem stopping_inv (now : Moment) (h : m.Inv p c) (hn : m.phase ≠ .finished) (hst : c.stopped = true) :
    (m.stopping now).Inv p c := by
  have hphase := stopping_phase now m
  have hfin : (m.stopping now).isFinished = m.isFinished := by unfold stopping; split <;> rfl
  refine ⟨(stopping_plan now m).trans h.plan, (stopping_control now m).trans h.control, ?_⟩
  have hph := h.phase
  rw [hphase]
  cases hcase : m.phase with
  | ready =>
    rw [hcase] at hph
    exact ⟨hfin.trans hph.1, hst ▸ stopping_stands now rfl hph.2.1, stopping_cut now hph.2.2⟩
  | parked i woken =>
    rw [hcase] at hph
    obtain ⟨hs, pre, post, done, hpost, hi, hcut⟩ := hph
    exact ⟨hst ▸ stopping_stands now rfl hs, pre, post, done, hpost, hi, stopping_cut now hcut⟩
  | inFlight a o | inGrace a o expired =>
    rw [hcase] at hph
    obtain ⟨hs, step, st, hr, h⟩ := hph
    exact ⟨hst ▸ stopping_stands now rfl hs, step, st, hr, stopping_attempts now h⟩
  | backingOff a slept =>
    rw [hcase] at hph
    obtain ⟨hs, step, st, hf, he, hl, h⟩ := hph
    exact ⟨hst ▸ stopping_stands now rfl hs, step, st, hf, he, hl, stopping_attempts now h⟩
  | closing =>
    rw [hcase] at hph
    rw [stopping, if_pos hph.2.isTerminal]
    exact hph
  | finished => exact absurd hcase hn
  | raised f =>
    rw [hcase] at hph
    exact hph

theorem start_inv (now : Moment) (h : m.Inv p c) (hready : m.phase = .ready) : (m.start now).Inv p c := by
  obtain ⟨hp, hc, hph⟩ := h
  rw [hready] at hph
  obtain ⟨_, hs, hcut⟩ := hph
  rw [start_eq now (hp ▸ hcut.steps)]
  have hl (data : Json.Members) := enterStep_lands (m := m.emit now .sessionStarted data) hp hc now hs rfl hcut
  exact afterMove_inv now (hl _)

/-- **A signal keeps the invariant** of a run that is not over. -/
theorem receive_inv (now : Moment) (h : m.Inv p c) (hn : m.phase ≠ .finished) {s : Signal} (hs : s.isOfRun = true) :
    (m.receive now s).Inv p (c.after s) := by
  match s with
  | .control call => exact applyControl_inv h hn call
  | .stop =>
    have hstop := applyControl_inv h hn .stop
    have hn' : (m.applyControl .stop).phase ≠ .finished := by
      unfold applyControl
      cases hphase : m.phase <;> simp_all
    rw [receive_stop]
    exact stopping_inv now hstop hn' rfl
  | .turn => exact afterMove_inv now (takeTurn_lands h now)
  | .start =>
    cases hphase : m.phase with
    | ready =>
      have hf : m.isFinished = false := by
        have hph := h.phase
        rw [hphase] at hph
        exact hph.1
      simp only [receive, hphase, hf, Bool.false_eq_true, if_false]
      exact start_inv now h hphase
    | _ => simpa only [receive, hphase, Control.after] using h
  | .outcome o =>
    obtain ⟨hp, hc, hph⟩ := h
    cases hphase : m.phase with
    | inFlight a o' | inGrace a o' expired =>
      rw [hphase] at hph
      cases o' with
      | none =>
        simp only [receive, hphase]
        exact ⟨hp, hc, hph⟩
      | some o' =>
        simp only [receive, hphase]
        exact ⟨hp, hc, hphase ▸ hph⟩
    | _ => simpa only [receive, hphase, Control.after] using ⟨hp, hc, hph⟩
  | .timeUp =>
    obtain ⟨hp, hc, hph⟩ := h
    cases hphase : m.phase with
    | inGrace a o expired | backingOff a slept =>
      rw [hphase] at hph
      simp only [receive, hphase]
      exact ⟨hp, hc, hph⟩
    | _ => simpa only [receive, hphase, Control.after] using ⟨hp, hc, hph⟩
  | .closed =>
    cases hphase : m.phase with
    | closing =>
      have hph := h.phase
      rw [hphase] at hph
      simp only [receive, hphase]
      exact ⟨h.plan, h.control, hph.2⟩
    | _ => simpa only [receive, hphase, Control.after] using h

/-! ## Whole runs -/

/-- A run that is over takes no signal any more, not even one to fail it. -/
theorem receive_over (h : m.session.isTerminal = true) (hph : m.phase = .finished) (now : Moment) (s : Signal) :
    (m.receive now s).session = m.session ∧ (m.receive now s).phase = .finished := by
  match s with
  | .control call => exact ⟨rfl, by simp only [receive, applyControl, hph]⟩
  | .stop =>
    have hterm : (m.applyControl .stop).session.isTerminal = true := h
    simp only [receive, markStopped_eq, orRaised, stopping, if_pos hterm]
    exact ⟨rfl, by simp only [applyControl, hph]⟩
  | .turn => simp only [receive, takeTurn, hph, afterMove, and_self]
  | .start | .fail _ | .outcome _ | .timeUp | .closed => simp only [receive, hph, and_self]

theorem receiveAll_over (later : List (Moment × Signal)) : ∀ {m : Monitor}, m.session.isTerminal = true →
    m.phase = .finished → (m.receiveAll later).session = m.session ∧ (m.receiveAll later).phase = .finished := by
  induction later with
  | nil => exact fun _ hph => ⟨rfl, hph⟩
  | cons x later ih =>
    intro m h hph
    obtain ⟨h₁, h₂⟩ := receive_over h hph x.1 x.2
    have hx := ih (m := m.receive x.1 x.2) (by rw [h₁]; exact h) h₂
    exact ⟨hx.1.trans h₁, hx.2⟩

theorem create_eq {now : Instant} {id taskName : String} (h : create now id taskName p c = .ok m) :
    m = { plan := p, session := Session.ofSteps now id taskName p.steps, control := c } := by
  unfold create at h
  cases hseq : Step.checkSequence p.steps with
  | error e =>
    rw [hseq] at h
    cases h
  | ok u =>
    rw [hseq] at h
    cases h
    rfl

theorem create_inv {now : Instant} {id taskName : String} (h : create now id taskName p c = .ok m) : m.Inv p c := by
  rw [create_eq h]
  refine ⟨rfl, rfl, rfl, .inl ⟨rfl, rfl⟩, rfl, .nil, ?_, ?_, rfl, rfl⟩
  · exact List.forall₂_map_right_iff.mpr (List.forall₂_same.mpr fun step _ => StepStatus.isOpenFor_ofStep step)
  · exact (Nat.zero_add _).symm

theorem receiveAll_inv (signals : List (Moment × Signal)) : ∀ {m : Monitor} {c : Control}, m.Inv p c →
    (∀ x ∈ signals, x.2.isOfRun = true) → (m.receiveAll signals).phase ≠ .finished →
      (m.receiveAll signals).Inv p (c.afterAll signals) := by
  induction signals with
  | nil => exact fun h _ _ => h
  | cons x signals ih =>
    intro m c h hs hn
    -- a run that is over stays over, and the last monitor is not
    have hm : m.phase ≠ .finished := by
      intro hph
      have hover := h.phase
      rw [hph] at hover
      exact hn (receiveAll_over (x :: signals) hover.isTerminal hph).2
    exact ih (receive_inv x.1 h hm (hs x (by simp))) (fun y hy => hs y (by simp [hy])) hn

end

/-- **Every run settles its session.** No run raises, and the signal with which
it ends leaves all records settled, for good. -/
theorem run_settles {now : Instant} {id taskName : String} {plan : Plan} {control : Control} {m : Monitor}
    (hm : create now id taskName plan control = .ok m) {signals : List (Moment × Signal)}
    (hs : ∀ x ∈ signals, x.2.isOfRun = true) :
    (∀ f, (m.receiveAll signals).phase ≠ .raised f) ∧
      ∀ t s, s.isOfRun = true → (m.receiveAll signals).phase ≠ .finished →
        ((m.receiveAll signals).receive t s).phase = .finished →
          let ended := (m.receiveAll signals).receive t s
          let stopped := control.stopped || (signals ++ [(t, s)]).any (·.2.asksStop)
          ended.session.IsSettled plan.steps stopped ∧ ∀ later, (ended.receiveAll later).session = ended.session := by
  have hinv := receiveAll_inv signals (create_inv hm) hs
  refine ⟨?_, ?_⟩
  · intro f hf
    have hph := (hinv (by rw [hf]; exact fun h => nomatch h)).phase
    rw [hf] at hph
    exact hph
  · intro t s hrun hn hfin
    have hover := (receive_inv t (hinv hn) hn hrun).phase
    rw [hfin] at hover
    have hst : ((control.afterAll signals).after s).stopped =
        (control.stopped || (signals ++ [(t, s)]).any (·.2.asksStop)) := by
      rw [Control.after_stopped, Control.afterAll_stopped, List.any_append, Bool.or_assoc]
      simp
    exact ⟨hst ▸ hover.isSettled, fun later => (receiveAll_over later hover.isTerminal hfin).1⟩

private def retried : Plan where
  steps := [⟨"step-1", 1, .click "#buy", [], ⟨false, 1⟩⟩]
  delay _ _ := .ok (.part (.ofNat 1))

private def startOfTime : Moment := .ofSeconds (.ofNat 0)

private def stoppedBackoff : List (Moment × Signal) :=
  [.start, .outcome (.raised (.foreign "ValueError" "boom")), .turn, .control .stop, .turn].map (startOfTime, ·)

private def freshRun : Monitor :=
  { plan := retried, session := .ofSteps startOfTime.wall "session" "task" retried.steps }

theorem run_settles_stopped_backoff : ∃ m, create startOfTime.wall "session" "task" retried {} = .ok m ∧
    (∀ x ∈ stoppedBackoff, x.2.isOfRun = true) ∧ Signal.closed.isOfRun = true ∧
      (m.receiveAll stoppedBackoff).phase ≠ .finished ∧
        ((m.receiveAll stoppedBackoff).receive startOfTime .closed).phase = .finished ∧
          ((m.receiveAll stoppedBackoff).receive startOfTime .closed).session.IsSettled retried.steps true := by
  have hcreate : create startOfTime.wall "session" "task" retried {} = .ok freshRun := rfl
  have hrun : ∀ x ∈ stoppedBackoff, x.2.isOfRun = true := by simp [stoppedBackoff, Signal.isOfRun]
  have hwait : (freshRun.receiveAll stoppedBackoff).phase = .closing := by rfl
  have hopen : (freshRun.receiveAll stoppedBackoff).phase ≠ .finished := by simp [hwait]
  have hend : ((freshRun.receiveAll stoppedBackoff).receive startOfTime .closed).phase = .finished := by
    simp only [receive, hwait]
    rfl
  exact ⟨freshRun, hcreate, hrun, rfl, hopen, hend, ((run_settles hcreate hrun).2 startOfTime .closed rfl hopen hend).1⟩

end Monitor

end BrowserPilot
