import BrowserPilot.Proofs.Monitor.Effects

/-!
# Monitors apart from time

Two monitors agree if they tell, ask and record the same but for times. Whatever
a monitor does to one record, and how it winds up a run, is the same then.
-/

namespace BrowserPilot

/-! ## What is left without times -/

def StepStatus.bare (st : StepStatus) : StepStatus :=
  { st with
    startedAt := st.startedAt.map fun _ => ⟨0⟩
    endedAt := st.endedAt.map fun _ => ⟨0⟩
    durationMs := st.durationMs.map fun _ => 0 }

/-- A session without its name and its times. -/
def Session.bare (s : Session) : Session :=
  { s with
    id := ""
    startedAt := ⟨0⟩
    endedAt := s.endedAt.map fun _ => ⟨0⟩
    steps := s.steps.map StepStatus.bare }

def Emission.bare (e : Emission) : EventKind × Json.Members := (e.kind, e.data.filter fun x => x.1 ≠ "duration_ms")

def EventKind.isOfPause : EventKind → Bool
  | .sessionPaused | .sessionResumed => true
  | _ => false

/-- A change of a record that depends on the time in its times only. -/
def IgnoresTime (f : Instant → StepStatus → Except Fault StepStatus) : Prop :=
  ∀ now st, (f now st).map StepStatus.bare = f ⟨0⟩ st.bare

namespace StepStatus

theorem ignoresTime_set {g : StepStatus → StepStatus} (h : ∀ st, (g st).bare = g st.bare) :
    IgnoresTime fun _ st => .ok (g st) := fun _ st => congrArg Except.ok (h st)

theorem ignoresTime_log (line : String) : IgnoresTime fun _ => log line := by
  intro now st
  show (st.log line).map bare = st.bare.log line
  unfold log
  by_cases hf : st.final = true
  · rw [if_pos hf, if_pos (show st.bare.final = true from hf)]
    rfl
  · rw [if_neg hf, if_neg (show ¬st.bare.final = true from hf)]
    rfl

theorem ignoresTime_transition (s : StepState) : IgnoresTime fun now => transition now s := by
  intro now st
  show (st.transition now s).map bare = st.bare.transition ⟨0⟩ s
  unfold transition
  by_cases hc : (st.final || !st.state.canBecome s) = true
  · rw [if_pos hc, if_pos (show (st.bare.final || !st.bare.state.canBecome s) = true from hc)]
    rfl
  · rw [if_neg hc, if_neg (show ¬(st.bare.final || !st.bare.state.canBecome s) = true from hc)]
    cases hs : st.startedAt with
    | none => by_cases hr : s = .running <;> simp [bare, Except.map, hs, hr]
    | some start => simp [bare, Except.map, hs]

theorem ignoresTime_finalize : IgnoresTime finalize := by
  intro now st
  unfold finalize
  by_cases ht : st.state.isTerminal = true
  · rw [if_pos ht, if_pos (show st.bare.state.isTerminal = true from ht)]
    have hzero : Instant.millisecondsTo ⟨0⟩ ⟨0⟩ = 0 := by decide +kernel
    cases hs : st.startedAt <;> simp [bare, Except.map, hs, hzero]
  · rw [if_neg ht, if_neg (show ¬st.bare.state.isTerminal = true from ht)]
    rfl

theorem ignoresTime_store (k : ActionKind) (r : Result) : IgnoresTime fun _ => store k r := by
  intro now st
  cases k <;> cases r <;> rfl

theorem ignoresTime_bind {f g : Instant → StepStatus → Except Fault StepStatus} (hf : IgnoresTime f) (hg : IgnoresTime g) :
    IgnoresTime fun now st => (f now st).bind (g now) := by
  intro now st
  have hst := hf now st
  cases hfst : f now st with
  | error e =>
    rw [hfst] at hst
    simp only [hfst, ← hst, Except.bind, Except.map]
  | ok t =>
    rw [hfst] at hst
    simp only [hfst, ← hst, Except.bind, Except.map]
    exact hg now t

end StepStatus

namespace Monitor

/-- What a monitor has told, apart from pauses and times. -/
def told (m : Monitor) : List (EventKind × Json.Members) := (m.events.filter fun e => !e.kind.isOfPause).map Emission.bare

/-- Two monitors have told, asked and recorded the same but for times. -/
structure Agree (m m' : Monitor) : Prop where
  plan : m.plan = m'.plan
  session : m.session.bare = m'.session.bare
  isFinished : m.isFinished = m'.isFinished
  told : m.told = m'.told
  asked : m.asked = m'.asked

/-- Two running monitors that agree, neither of them stopped and the second not paused. -/
structure Abreast (m m' : Monitor) : Prop extends m.Agree m' where
  running : m.session.state = .running
  going : m.control.stopped = false
  free : m'.control = {}

/-- What two runs do about their records keeps them abreast, or fails in both. -/
inductive Pace : Except Halt Monitor → Except Halt Monitor → Prop where
  | ok {m m' : Monitor} (h : m.Abreast m') : Pace (.ok m) (.ok m')
  | error {m m' : Monitor} {f : Fault} (h : m.Abreast m') : Pace (.error ⟨m, f⟩) (.error ⟨m', f⟩)

theorem Pace.bind {x x' : Except Halt Monitor} (h : Pace x x') {f f' : Move}
    (hf : ∀ m m', m.Abreast m' → Pace (f m) (f' m')) : Pace (x.bind f) (x'.bind f') := by
  cases h with
  | ok h => exact hf _ _ h
  | error h => exact .error h

theorem Pace.map {x x' : Except Halt Monitor} (h : Pace x x') {f f' : Monitor → Monitor}
    (hf : ∀ m m', m.Abreast m' → (f m).Abreast (f' m')) : Pace (x.map f) (x'.map f') := by
  cases h with
  | ok h => exact .ok (hf _ _ h)
  | error h => exact .error h

section
variable {m m' : Monitor} {now now' : Moment}

theorem told_emit (now : Moment) (k : EventKind) (data : Json.Members) (m : Monitor) : (m.emit now k data).told =
    m.told ++ if k.isOfPause then [] else [(k, data.filter fun x => x.1 ≠ "duration_ms")] := by
  unfold told emit
  rw [List.filter_append, List.map_append]
  cases k <;> rfl

theorem asked_request (now : Moment) (r : Request) (m : Monitor) : (m.request now r).asked = m.asked ++ [r] := by
  simp [asked, request]

theorem Agree.emit (h : m.Agree m') (now now' : Moment) (k : EventKind) {data data' : Json.Members}
    (hd : (data.filter fun x => x.1 ≠ "duration_ms") = data'.filter fun x => x.1 ≠ "duration_ms") :
    (m.emit now k data).Agree (m'.emit now' k data') :=
  ⟨h.plan, h.session, h.isFinished, by rw [told_emit, told_emit, h.told, hd], h.asked⟩

theorem Abreast.emit (h : m.Abreast m') (now now' : Moment) (k : EventKind) {data data' : Json.Members}
    (hd : (data.filter fun x => x.1 ≠ "duration_ms") = data'.filter fun x => x.1 ≠ "duration_ms") :
    (m.emit now k data).Abreast (m'.emit now' k data') :=
  ⟨h.toAgree.emit now now' k hd, h.running, h.going, h.free⟩

theorem Abreast.request (h : m.Abreast m') (r : Request) : (m.request now r).Abreast (m'.request now' r) :=
  ⟨⟨h.plan, h.session, h.isFinished, h.told, by rw [asked_request, asked_request, h.asked]⟩, h.running, h.going, h.free⟩

/-! ## Records -/

theorem Agree.record (h : m.Agree m') (i : Nat) :
    m.session.steps[i]?.map StepStatus.bare = m'.session.steps[i]?.map StepStatus.bare := by
  rw [← List.getElem?_map, ← List.getElem?_map]
  exact congrArg (·[i]?) (congrArg Session.steps h.session)

theorem Agree.progressData (h : m.Agree m') : m.progressData = m'.progressData := by
  have hp : m.session.progress = m'.session.progress :=
    show m.session.bare.progress = m'.session.bare.progress by rw [h.session]
  unfold Monitor.progressData
  rw [hp]

theorem updateStep_bare {f : Instant → StepStatus → Except Fault StepStatus} (hf : IgnoresTime f) (now : Instant) (i : Nat)
    (s : Session) : (s.updateStep i (f now)).map Session.bare = s.bare.updateStep i (f ⟨0⟩) := by
  have hget : s.bare.steps[i]? = s.steps[i]?.map StepStatus.bare := List.getElem?_map
  unfold Session.updateStep
  rw [hget]
  cases s.steps[i]? with
  | none => rfl
  | some st =>
    simp only [Option.map_some, ← hf now st]
    cases f now st with
    | error e => rfl
    | ok t => simp [Except.map, Session.bare, List.map_set]

theorem updateStep_state {f : StepStatus → Except Fault StepStatus} {i : Nat} {s s' : Session}
    (h : s.updateStep i f = .ok s') : s'.state = s.state := by
  unfold Session.updateStep at h
  cases hi : s.steps[i]? with
  | none =>
    rw [hi] at h
    cases h
    rfl
  | some st =>
    simp only [hi] at h
    cases hf : f st with
    | error e =>
      rw [hf] at h
      cases h
    | ok t =>
      rw [hf] at h
      cases h
      rfl

theorem Abreast.onStep (h : m.Abreast m') (now now' : Moment) (i : Nat) {f : Instant → StepStatus → Except Fault StepStatus}
    (hf : IgnoresTime f) : Pace (m.onStep i (f now.wall)) (m'.onStep i (f now'.wall)) := by
  have hsame : (m.session.updateStep i (f now.wall)).map Session.bare =
      (m'.session.updateStep i (f now'.wall)).map Session.bare := by
    rw [updateStep_bare hf, updateStep_bare hf, h.session]
  unfold Monitor.onStep
  cases hs : m.session.updateStep i (f now.wall) with
  | error e =>
    cases hs' : m'.session.updateStep i (f now'.wall) with
    | error e' =>
      rw [hs, hs'] at hsame
      cases hsame
      exact .error h
    | ok s' =>
      rw [hs, hs'] at hsame
      cases hsame
  | ok s =>
    cases hs' : m'.session.updateStep i (f now'.wall) with
    | error e' =>
      rw [hs, hs'] at hsame
      cases hsame
    | ok s' =>
      rw [hs, hs'] at hsame
      exact .ok ⟨⟨h.plan, Except.ok.inj hsame, h.isFinished, h.told, h.asked⟩, (updateStep_state hs).trans h.running,
        h.going, h.free⟩

theorem stepFinishedData_bare (st : StepStatus) : ((stepFinishedData st).filter fun x => x.1 ≠ "duration_ms") =
    (stepFinishedData st.bare).filter fun x => x.1 ≠ "duration_ms" := by
  simp [stepFinishedData, StepStatus.bare]

theorem Abreast.announceStep (h : m.Abreast m') (i : Nat) : (m.announceStep now i).Abreast (m'.announceStep now' i) := by
  have hrec := h.record i
  unfold Monitor.announceStep
  cases hst : m.session.steps[i]? with
  | none =>
    rw [hst] at hrec
    rw [Option.map_eq_none_iff.mp hrec.symm]
    exact h
  | some st =>
    rw [hst] at hrec
    obtain ⟨st', hst', hbare⟩ := Option.map_eq_some_iff.mp hrec.symm
    rw [hst']
    have hstate : st'.state = st.state := show st'.bare.state = st.bare.state by rw [hbare]
    have hcounted : ({ m with session := m.session.recordOutcome st } : Monitor).Abreast
        { m' with session := m'.session.recordOutcome st' } := by
      refine ⟨⟨h.plan, ?_, h.isFinished, h.told, h.asked⟩, ?_, h.going, h.free⟩
      · have hs := h.session
        simp only [Session.recordOutcome, hstate]
        split <;> simp_all [Session.bare]
      · simp only [Session.recordOutcome]
        split <;> exact h.running
    have hdata : ((stepFinishedData st).filter fun x => x.1 ≠ "duration_ms") =
        (stepFinishedData st').filter fun x => x.1 ≠ "duration_ms" := by
      rw [stepFinishedData_bare, stepFinishedData_bare st', hbare]
    have htold := hcounted.emit now now' .stepFinished hdata
    exact htold.emit now now' .progress (by rw [htold.progressData])

theorem Abreast.finalizeStep (h : m.Abreast m') (i : Nat) : Pace (m.finalizeStep now i) (m'.finalizeStep now' i) :=
  (h.onStep now now' i StepStatus.ignoresTime_finalize).map fun _ _ h => h.announceStep i

/-! ## Winding up -/

/-- The moment of an instant, for what looks at no other clock. -/
def momentOf (i : Instant) : Moment := ⟨i, .zero false⟩

theorem abandon_eq (now : Instant) (reason : String) (st : StepStatus) : abandon (momentOf now) reason st =
    ((.ok (st.withError (st.errorOr reason)) : Except Fault StepStatus).bind fun st =>
      if st.state = .failed then .ok st else st.transition now .failed).bind (StepStatus.log reason) := by
  cases he : st.error <;> simp only [abandon, StepStatus.withError, StepStatus.errorOr, momentOf, he] <;> rfl

theorem ignoresTime_abandon (reason : String) : IgnoresTime fun now => abandon (momentOf now) reason := by
  have hfail : IgnoresTime fun now st => if st.state = .failed then .ok st else st.transition now .failed := by
    intro now st
    by_cases hf : st.state = .failed
    · simp only [if_pos hf, if_pos (show st.bare.state = .failed from hf)]
      rfl
    · simp only [if_neg hf, if_neg (show ¬st.bare.state = .failed from hf)]
      exact StepStatus.ignoresTime_transition .failed now st
  have hall := StepStatus.ignoresTime_bind (StepStatus.ignoresTime_bind
    (StepStatus.ignoresTime_set (g := fun st => st.withError (st.errorOr reason)) fun _ => rfl) hfail)
    (StepStatus.ignoresTime_log reason)
  intro now st
  simp only [abandon_eq]
  exact hall now st

theorem Abreast.failAt (reason : String) (is : List Nat) : ∀ {m m' : Monitor}, m.Abreast m' →
    Pace (failAt now reason is m) (failAt now' reason is m') := by
  induction is with
  | nil => exact fun h => .ok h
  | cons i is ih =>
    intro m m' h
    have hrec := h.record i
    unfold Monitor.failAt
    cases hst : m.session.steps[i]? with
    | none =>
      rw [hst] at hrec
      simp only [Option.map_eq_none_iff.mp hrec.symm]
      exact ih h
    | some st =>
      rw [hst] at hrec
      obtain ⟨st', hst', hbare⟩ := Option.map_eq_some_iff.mp hrec.symm
      have hterm : st'.isTerminal = st.isTerminal := show st'.bare.isTerminal = st.bare.isTerminal by rw [hbare]
      simp only [hst', hterm]
      -- a record is settled in both or in neither
      by_cases ht : st.isTerminal = true
      · rw [if_pos ht, if_pos ht]
        exact ih h
      · rw [if_neg ht, if_neg ht]
        have habandon : Pace (m.onStep i (abandon now reason)) (m'.onStep i (abandon now' reason)) :=
          h.onStep now now' i (ignoresTime_abandon reason)
        exact (habandon.bind fun _ _ h => h.finalizeStep i).bind fun _ _ h => ih h

theorem Abreast.failRemaining (h : m.Abreast m') (now now' : Moment) (reason : String) :
    Pace (m.failRemaining now reason) (m'.failRemaining now' reason) := by
  have hlen : m.session.steps.length = m'.session.steps.length := by
    have hs := congrArg (fun s : Session => s.steps.length) h.session
    simpa [Session.bare] using hs
  unfold Monitor.failRemaining
  rw [hlen]
  exact h.failAt reason _

structure Over (m m' : Monitor) : Prop extends m.Agree m' where
  phase : m.phase = m'.phase
  isOver : m.isOver = true

theorem Abreast.raised (h : m.Abreast m') (f : Fault) : Over { m with phase := .raised f } { m' with phase := .raised f } :=
  ⟨⟨h.plan, h.session, h.isFinished, h.told, h.asked⟩, rfl, rfl⟩

theorem Abreast.lastState (h : m.Abreast m') : m.lastState = m'.lastState := by
  have hpassed : (m.session.bare.steps.all fun st => st.state.hasPassed) =
      m'.session.bare.steps.all fun st => st.state.hasPassed := by rw [h.session]
  have hstate : m.session.state = m'.session.state :=
    show m.session.bare.state = m'.session.bare.state by rw [h.session]
  simp only [Session.bare, List.all_map] at hpassed
  unfold Monitor.lastState
  rw [h.going, h.free, ← hstate]
  exact congrArg (fun b => if b && !false && m.session.state == .running then SessionState.completed else .failed) hpassed

theorem Abreast.concluding (h : m.Abreast m') (now now' : Moment) : (m.concluding now).Agree (m'.concluding now') := by
  have hstate : m.session.bare.state = m'.session.bare.state := by rw [h.session]
  have hrun : m'.session.state = .running := Eq.trans (Eq.symm hstate) h.running
  unfold Monitor.concluding
  rw [if_neg (by simp [Session.isTerminal, h.running, SessionState.isTerminal]),
    if_neg (by simp [Session.isTerminal, hrun, SessionState.isTerminal]), h.lastState]
  refine ⟨h.plan, ?_, h.isFinished, h.told, h.asked⟩
  exact congrArg (fun s : Session => { s with state := m'.lastState, endedAt := some ⟨0⟩ }) h.session

theorem Abreast.finish (h : m.Abreast m') : Over (orRaised (m.finish now)) (orRaised (m'.finish now')) := by
  have hwound : Abreast { m with isFinished := true } { m' with isFinished := true } :=
    ⟨⟨h.plan, h.session, rfl, h.told, h.asked⟩, h.running, h.going, h.free⟩
  have hpace := hwound.failRemaining now now' notExecuted
  unfold Monitor.finish
  generalize Monitor.failRemaining now notExecuted { m with isFinished := true } = x at hpace
  generalize Monitor.failRemaining now' notExecuted { m' with isFinished := true } = x' at hpace
  cases hpace with
  | error h => exact h.raised _
  | @ok n n' h =>
    have hend := h.concluding now now'
    have hstop : (n.concluding now).control.stopped = false := by rw [concluding_eq]; exact h.going
    have hstop' : (n'.concluding now').control.stopped = false := by rw [concluding_eq, h.free]
    have hdata : finishedData (n.concluding now).session.bare = finishedData (n'.concluding now').session.bare := by
      rw [hend.session]
    simp only [Except.bind, conclude_eq, Except.map, hstop, hstop', Bool.false_eq_true, if_false, orRaised]
    have hsaid := hend.emit now now' .sessionFinished (congrArg _ hdata)
    exact ⟨⟨hsaid.plan, hsaid.session, hsaid.isFinished, hsaid.told, hsaid.asked⟩, rfl, rfl⟩

theorem Abreast.windUp (h : m.Abreast m') (reason : String) :
    Over (orRaised ((Monitor.failRemaining now reason m).bind (Monitor.finish now)))
      (orRaised ((Monitor.failRemaining now' reason m').bind (Monitor.finish now'))) := by
  have hpace := h.failRemaining now now' reason
  generalize Monitor.failRemaining now reason m = x at hpace
  generalize Monitor.failRemaining now' reason m' = x' at hpace
  cases hpace with
  | error h => exact h.raised _
  | ok h => exact h.finish

theorem Abreast.halt (h : m.Abreast m') (f : Fault) :
    Over (afterMove now (.error ⟨m, f⟩)) (afterMove now' (.error ⟨m', f⟩)) :=
  (h.emit now now' .error rfl).windUp (reasonOf f)

theorem Abreast.failSession (h : m.Abreast m') (reason : String) :
    Over (m.failSession now reason) (m'.failSession now' reason) :=
  (h.emit now now' .error rfl).windUp reason

end

end Monitor

end BrowserPilot
