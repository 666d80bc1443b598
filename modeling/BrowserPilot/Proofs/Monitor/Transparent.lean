import BrowserPilot.Proofs.Monitor.Bare
import BrowserPilot.Proofs.Monitor.Progress

/-!
# Pauses leave no trace

A run that is paused and resumed does what an undisturbed run does, which may
be one step ahead while the other is held in front of it. Since an undisturbed
run has one course, all runs that come to their end have come to the same.
-/

namespace BrowserPilot

def Signal.isOfPause : Signal → Bool
  | .control .pause | .control .resume => true
  | _ => false

def Phase.isUnderWay : Phase → Bool
  | .ready | .inFlight .. | .backingOff .. => true
  | _ => false

theorem Phase.isUnstopped_of_isUnderWay {ph : Phase} (h : ph.isUnderWay = true) : ph.isUnstopped = true := by
  cases ph with
  | inGrace | closing => cases h
  | _ => rfl

namespace Monitor

/-- A signal that pauses or resumes the run, or else leaves it on its course. -/
def Plays (c : Course) (m : Monitor) (s : Signal) : Prop := s.isOfPause = true ∨ m.Keeps c s

def Played (c : Course) (m : Monitor) : List (Moment × Signal) → Prop
  | [] => True
  | x :: signals => m.Plays c x.2 ∧ (m.receive x.1 x.2).Played c signals

def advance (c : Course) (m : Monitor) : Monitor := m.receive (momentOf ⟨0⟩) (m.awaited c)

/-- A run follows one that no one pauses: they are abreast, or the first is held
in front of a step that the second has begun, or both are over. -/
inductive Tracks (m m' : Monitor) : Prop where
  | abreast (h : m.Abreast m') (hphase : m.phase = m'.phase) (hway : m.phase.isUnderWay = true)
  | held {i : Nat} {woken : Bool} {step : Step} {front : Monitor} {now' : Moment} (hphase : m.phase = .parked i woken)
      (hpaused : m.session.state = .paused) (hi : m.plan.steps[i]? = some step)
      (h : Abreast { m with session := { m.session with state := .running } } front)
      (hnext : m' = afterMove now' (front.beginAttempt now' i step 1))
  | ended (h : m.Over m')

section
variable {m m' : Monitor} {now now' : Moment}

/-! ## Moves -/

theorem Pace.tracks {x x' : Except Halt Monitor} (h : Pace x x') {f f' : Monitor → Except Halt (Monitor × Next)}
    (hf : ∀ {n n' : Monitor}, n.Abreast n' → Tracks (afterMove now (f n)) (afterMove now' (f' n'))) :
    Tracks (afterMove now (x >>= f)) (afterMove now' (x' >>= f')) := by
  cases h with
  | ok h => exact hf h
  | error h => exact .ended (h.halt _)

theorem Abreast.inPhase (h : m.Abreast m') (ph ph' : Phase) :
    Abreast { m with phase := ph } { m' with phase := ph' } :=
  ⟨⟨h.plan, h.session, h.isFinished, h.told, h.asked⟩, h.running, h.going, h.free⟩

theorem Abreast.waits (h : m.Abreast m') {ph : Phase} (hway : ph.isUnderWay = true) :
    Tracks { m with phase := ph } { m' with phase := ph } :=
  .abreast (h.inPhase ph ph) rfl hway

theorem Abreast.beginAttempt (h : m.Abreast m') (i : Nat) (step : Step) (number : Nat) :
    Tracks (afterMove now (m.beginAttempt now i step number)) (afterMove now' (m'.beginAttempt now' i step number)) := by
  unfold Monitor.beginAttempt
  obtain ⟨action, fallback⟩ := step.attempt number
  have hcounted : IgnoresTime fun _ st => .ok (st.counted number) :=
    StepStatus.ignoresTime_set fun st => by unfold StepStatus.counted; split <;> rfl
  dsimp only
  refine Pace.tracks (h.onStep now now' i hcounted) fun h => ?_
  refine Pace.tracks (h.onStep now now' i (StepStatus.ignoresTime_transition .running)) fun {n n'} h => ?_
  have hsaid : Abreast (if number = 1 then n.emit now .stepStarted (startedData step) else n)
      (if number = 1 then n'.emit now' .stepStarted (startedData step) else n') := by
    split
    · exact h.emit now now' .stepStarted rfl
    · exact h
  refine Pace.tracks (hsaid.onStep now now' i (StepStatus.ignoresTime_log _)) fun h => ?_
  exact (h.request (.perform action)).waits rfl

theorem Abreast.pausing (h : m.Abreast m') (i : Nat) :
    Abreast { m.pausing now i with session := { (m.pausing now i).session with state := .running } } m' := by
  have hback : ({ (m.pausing now i).session with state := .running } : Session) = m.session := by
    rw [← h.running]
    rfl
  rw [hback]
  exact ⟨⟨h.plan, h.session, h.isFinished, (told_emit now .sessionPaused _ _).trans ((List.append_nil _).trans h.told),
    h.asked⟩, h.running, h.going, h.free⟩

theorem Abreast.enterStep (h : m.Abreast m') (i : Nat) :
    Tracks (afterMove now (m.enterStep now i)) (afterMove now' (m'.enterStep now' i)) := by
  cases hi : m.plan.steps[i]? with
  | none =>
    rw [enterStep_none now hi, enterStep_none now' (h.plan ▸ hi)]
    exact .ended h.finish
  | some step =>
    rw [enterStep_free (h.plan ▸ hi) now' (by rw [h.free]) (by rw [h.free])]
    cases hpa : m.control.paused with
    | false =>
      rw [enterStep_free hi now h.going hpa]
      exact h.beginAttempt i step 1
    | true =>
      rw [enterStep_paused hi now h.going hpa h.running]
      exact .held rfl rfl hi (h.pausing i) rfl

theorem Abreast.giveUp (h : m.Abreast m') (i : Nat) :
    Tracks (afterMove now (m.giveUp now i)) (afterMove now' (m'.giveUp now' i)) := by
  unfold Monitor.giveUp
  refine Pace.tracks (h.finalizeStep i) fun h => ?_
  rw [h.plan]
  split
  · exact .ended h.finish
  · exact h.enterStep (i + 1)

theorem Abreast.passAttempt (h : m.Abreast m') (a : Attempt) (r : Result) :
    Tracks (afterMove now (m.passAttempt now a r)) (afterMove now' (m'.passAttempt now' a r)) := by
  unfold Monitor.passAttempt
  refine Pace.tracks (h.onStep now now' a.index (StepStatus.ignoresTime_store a.action.kind r)) fun h => ?_
  have hcredited : IgnoresTime fun _ st => .ok (st.credited a.fallback) := StepStatus.ignoresTime_set fun _ => rfl
  refine Pace.tracks (h.onStep now now' a.index hcredited) fun h => ?_
  refine Pace.tracks (h.onStep now now' a.index (StepStatus.ignoresTime_transition .success)) fun h => ?_
  refine Pace.tracks (h.finalizeStep a.index) fun h => ?_
  exact h.enterStep (a.index + 1)

theorem Abreast.failAttempt (h : m.Abreast m') (a : Attempt) (step : Step) (e : StepFault) :
    Tracks (afterMove now (m.failAttempt now a step e)) (afterMove now' (m'.failAttempt now' a step e)) := by
  unfold Monitor.failAttempt
  have hgiven : IgnoresTime fun _ st => .ok (st.withError e.message) := StepStatus.ignoresTime_set fun _ => rfl
  refine Pace.tracks (h.onStep now now' a.index hgiven) fun h => ?_
  by_cases hi : step.policy.ignoresErrors = true
  · rw [if_pos hi, if_pos hi]
    refine Pace.tracks (h.onStep now now' a.index (StepStatus.ignoresTime_log _)) fun h => ?_
    refine Pace.tracks (h.onStep now now' a.index (StepStatus.ignoresTime_transition .skipped)) fun h => ?_
    refine Pace.tracks (h.finalizeStep a.index) fun h => ?_
    exact h.enterStep (a.index + 1)
  · rw [if_neg hi, if_neg hi]
    refine Pace.tracks (h.onStep now now' a.index (StepStatus.ignoresTime_log _)) fun h => ?_
    refine Pace.tracks (h.onStep now now' a.index (StepStatus.ignoresTime_transition .failed)) fun {n n'} h => ?_
    rw [h.going, h.free, ← h.plan]
    split
    · cases n.plan.delay a.number e with
      | error f => exact .ended (h.halt f)
      | ok delay => exact ((h.emit now now' .stepRetrying rfl).request (.sleep delay)).waits rfl
    · exact h.giveUp a.index

theorem Abreast.settleAttempt (h : m.Abreast m') (a : Attempt) (o : Outcome) :
    Tracks (afterMove now (m.settleAttempt now a o)) (afterMove now' (m'.settleAttempt now' a o)) := by
  match o with
  | .finished r => exact h.passAttempt a r
  | .raised f =>
    by_cases hf : ∃ message, f = .sessionInit message
    · obtain ⟨message, rfl⟩ := hf
      exact .ended (h.halt _)
    · have hf : ∀ message, f ≠ .sessionInit message := fun message he => hf ⟨message, he⟩
      cases hi : m.plan.steps[a.index]? with
      | none =>
        have hi' : m'.plan.steps[a.index]? = none := h.plan ▸ hi
        cases f with
        | sessionInit message => exact absurd rfl (hf message)
        | _ =>
          simp only [Monitor.settleAttempt, hi, hi']
          exact .ended h.finish
      | some step =>
        rw [settleAttempt_raised now hi hf, settleAttempt_raised now' (h.plan ▸ hi) hf]
        exact h.failAttempt a step _

theorem Abreast.leaveBackoff (h : m.Abreast m') (a : Attempt) :
    Tracks (afterMove now (m.leaveBackoff now a)) (afterMove now' (m'.leaveBackoff now' a)) := by
  unfold Monitor.leaveBackoff
  rw [if_neg (by simp [h.going]), if_neg (by simp [h.free]), ← h.plan]
  cases m.plan.steps[a.index]? with
  | none => exact .ended h.finish
  | some step => exact h.beginAttempt a.index step (a.number + 1)

theorem firstPending?_bare (s : Session) : s.bare.firstPending? = s.firstPending? := by
  simp only [Session.firstPending?, Session.bare, List.findIdx?_map]
  rfl

theorem Abreast.start (h : m.Abreast m') : Tracks (m.start now) (m'.start now') := by
  have hdata : [("task_name", Json.str m.session.bare.taskName), ("total_steps", .ofNat m.session.bare.totalSteps)] =
      [("task_name", .str m'.session.bare.taskName), ("total_steps", .ofNat m'.session.bare.totalSteps)] := by
    rw [h.session]
  have hfirst : m.session.firstPending? = m'.session.firstPending? := by
    rw [← firstPending?_bare, h.session, firstPending?_bare]
  have hsaid := h.emit now now' .sessionStarted (congrArg _ hdata)
  unfold Monitor.start
  simp only [Monitor.emit]
  rw [hfirst]
  cases m'.session.firstPending? with
  | none => exact .ended hsaid.finish
  | some i => exact hsaid.enterStep i

/-- **The signal that both wait for** keeps monitors together that are abreast. -/
theorem Abreast.advance (h : m.Abreast m') (hphase : m.phase = m'.phase) (hway : m.phase.isUnderWay = true) (c : Course) :
    Tracks (m.receive now (m.awaited c)) (m'.advance c) := by
  unfold Monitor.advance
  cases hph : m.phase with
  | ready =>
    have hph' := hphase.symm.trans hph
    simp only [awaited, receive, hph, hph', ← h.isFinished]
    split
    · exact .abreast h hphase hway
    · exact h.start
  | inFlight a o =>
    have hph' := hphase.symm.trans hph
    cases o with
    | none =>
      simp only [awaited, receive, hph, hph', h.asked]
      exact h.waits rfl
    | some o =>
      simp only [awaited, receive, takeTurn, hph, hph']
      exact h.settleAttempt a o
  | backingOff a slept =>
    have hph' := hphase.symm.trans hph
    cases slept with
    | false =>
      simp only [awaited, receive, hph, hph']
      exact h.waits rfl
    | true =>
      simp only [awaited, receive, takeTurn, hph, hph', Bool.true_or, if_true]
      exact h.leaveBackoff a
  | parked i woken | inGrace a o expired | closing | finished | raised f =>
    rw [hph] at hway
    cases hway

/-! ## Signals -/

theorem apply_going {call : ControlCall} (hc : (Signal.control call).asksStop = false) {c : Control}
    (h : c.stopped = false) : (c.apply call).stopped = false := by
  have hafter := Control.after_stopped (.control call) c
  rw [h, hc] at hafter
  exact hafter

theorem applyControl_same {m : Monitor} (call : ControlCall) (hph : ∀ i woken, m.phase ≠ .parked i woken) :
    (m.applyControl call).phase = m.phase := by
  rcases applyControl_phase m call with h | ⟨i, woken, _, h, _⟩
  · exact h
  · exact absurd h (hph i woken)

theorem Tracks.applyControl (h : m.Tracks m') (call : ControlCall)
    (hc : (Signal.control call).asksStop = false) : (m.applyControl call).Tracks m' := by
  cases h with
  | abreast h hphase hway =>
    have hsame := applyControl_same (m := m) call fun i woken hp => by simp [hp, Phase.isUnderWay] at hway
    exact .abreast ⟨⟨h.plan, h.session, h.isFinished, h.told, h.asked⟩, h.running, apply_going hc h.going, h.free⟩
      (hsame.trans hphase) (hsame ▸ hway)
  | @held i woken step front now' hphase hpaused hi h hnext =>
    have hparked : (m.applyControl call).phase = .parked i (woken || !(m.control.apply call).paused) := by
      simp only [Monitor.applyControl, hphase]
    exact .held hparked hpaused hi
      ⟨⟨h.plan, h.session, h.isFinished, h.told, h.asked⟩, h.running, apply_going hc h.going, h.free⟩ hnext
  | ended h =>
    have hover := h.isOver
    have hsame := applyControl_same (m := m) call fun i woken hp => by simp [Monitor.isOver, hp] at hover
    refine .ended ⟨⟨h.plan, h.session, h.isFinished, h.told, h.asked⟩, hsame.trans h.phase, ?_⟩
    simp only [Monitor.isOver, hsame]
    exact hover

theorem isUnstopped_of_isOver (h : m.isOver = true) : m.phase.isUnstopped = true := by
  rcases isOver_iff.mp h with hph | ⟨f, hph⟩
  · rw [hph]
    rfl
  · rw [hph]
    rfl

theorem Tracks.unstopped (h : m.Tracks m') : m.Unstopped := by
  cases h with
  | abreast h _ hway => exact ⟨Phase.isUnstopped_of_isUnderWay hway, fun _ => h.going⟩
  | held hphase _ _ h _ => exact ⟨by rw [hphase]; rfl, fun _ => h.going⟩
  | ended h => exact ⟨isUnstopped_of_isOver h.isOver, fun hn => absurd (hn.symm.trans h.isOver) nofun⟩

/-- A run that goes on after a pause begins the step that it was held in front of. -/
theorem Tracks.resumes {i : Nat} {step : Step} {front : Monitor} (hpaused : m.session.state = .paused)
    (hi : m.plan.steps[i]? = some step) (h : Abreast { m with session := { m.session with state := .running } } front) :
    Tracks (afterMove now (m.leavePark now i)) (afterMove now' (front.beginAttempt now' i step 1)) := by
  have hgoing : m.control.stopped = false := h.going
  rw [leavePark_eq now i hgoing hpaused, hi]
  have hres : (m.resuming now).Abreast front :=
    ⟨⟨h.plan, h.session, h.isFinished, (told_emit now .sessionResumed _ _).trans ((List.append_nil _).trans h.told),
      h.asked⟩, h.running, h.going, h.free⟩
  exact hres.beginAttempt i step 1

/-- **Every signal keeps a run behind the one that no one pauses**, which advances by one signal at most. -/
theorem Tracks.receive {c : Course} (h : m.Tracks m') {s : Signal} (hp : m.Plays c s) (now : Moment) :
    (m.receive now s).Tracks m' ∨ (m.receive now s).Tracks (m'.advance c) := by
  rcases hp with hpause | hk
  · match s, hpause with
    | .control .pause, _ => exact .inl (h.applyControl .pause rfl)
    | .control .resume, _ => exact .inl (h.applyControl .resume rfl)
  · rcases receive_idle h.unstopped hk now with he | ⟨rfl, hnot⟩
    · rw [he]
      exact .inl h
    · cases h with
      | abreast h hphase hway => exact .inr (h.advance hphase hway c)
      | @held i woken step front now' hphase hpaused hi h hnext =>
        -- the other has begun the step already and waits for this one to catch up
        refine .inl ?_
        simp only [awaited, hphase, Monitor.receive, takeTurn]
        cases woken with
        | false => exact .held hphase hpaused hi h hnext
        | true =>
          rw [hnext]
          exact Tracks.resumes hpaused hi h
      | ended h => cases hnot.symm.trans h.isOver

theorem Tracks.receiveAll {c : Course} (signals : List (Moment × Signal)) : ∀ {m m' : Monitor}, m.Tracks m' →
    m.Played c signals → ∃ k, (m.receiveAll signals).Tracks ((advance c)^[k] m') := by
  induction signals with
  | nil => exact fun h _ => ⟨0, h⟩
  | cons x signals ih =>
    intro m m' h hp
    rcases h.receive hp.1 x.1 with h | h
    · exact ih h hp.2
    · obtain ⟨k, h⟩ := ih h hp.2
      exact ⟨k + 1, h⟩

/-! ## The course of a run -/

theorem receive_awaited_over (c : Course) (h : m.isOver = true) (now : Moment) : m.receive now (m.awaited c) = m := by
  rcases isOver_iff.mp h with hph | ⟨f, hph⟩
  · simp only [awaited, receive, takeTurn, hph, afterMove]
  · simp only [awaited, receive, takeTurn, hph, afterMove]

theorem advance_unique (c : Course) {k k' : Nat} (h : ((advance c)^[k] m).isOver = true)
    (h' : ((advance c)^[k'] m).isOver = true) : (advance c)^[k] m = (advance c)^[k'] m := by
  have hstays {j d : Nat} (h : ((advance c)^[j] m).isOver = true) : (advance c)^[j + d] m = (advance c)^[j] m := by
    have hfixed : ((advance c)^[j] m).advance c = (advance c)^[j] m := receive_awaited_over c h _
    rw [Nat.add_comm, Function.iterate_add_apply]
    exact Function.iterate_fixed hfixed d
  -- the one that has made fewer moves has stopped at its end
  rcases Nat.le_total k k' with hle | hle
  · obtain ⟨d, rfl⟩ := Nat.exists_eq_add_of_le hle
    exact (hstays h).symm
  · obtain ⟨d, rfl⟩ := Nat.exists_eq_add_of_le hle
    exact hstays h'

theorem Tracks.isOver (h : m.Tracks m') (ho : m.isOver = true) : m.Over m' := by
  cases h with
  | abreast _ _ hway =>
    rcases isOver_iff.mp ho with hph | ⟨f, hph⟩
    · exact absurd (hph ▸ hway) nofun
    · exact absurd (hph ▸ hway) nofun
  | held hphase _ _ _ _ => simp [Monitor.isOver, hphase] at ho
  | ended h => exact h

theorem Over.isOver_right (h : m.Over m') : m'.isOver = true := by
  have hover := h.isOver
  unfold Monitor.isOver at hover ⊢
  rwa [h.phase] at hover

theorem create_tracks {now : Instant} {id taskName : String} {plan : Plan} {control : Control}
    (hm : create now id taskName plan control = .ok m) (hst : control.stopped = false) :
    m.Tracks { plan, session := Session.ofSteps ⟨0⟩ "" taskName plan.steps } := by
  rw [create_eq hm]
  exact .abreast ⟨⟨rfl, rfl, rfl, rfl, rfl⟩, rfl, hst, rfl⟩ rfl rfl

theorem awaited_plays (c : Course) (m : Monitor) : m.Plays c (m.awaited c) := .inr (awaited_keeps c m)

theorem Plays.isOfRun {c : Course} {s : Signal} (h : m.Plays c s) : s.isOfRun = true := by
  rcases h with h | h
  · match s, h with
    | .control .pause, _ | .control .resume, _ => rfl
  · match s, h with
    | .start, _ | .timeUp, _ | .turn, _ | .closed, _ | .outcome _, _ => rfl

theorem Plays.asksStop {c : Course} {s : Signal} (h : m.Plays c s) : s.asksStop = false := by
  rcases h with h | h
  · match s, h with
    | .control .pause, _ | .control .resume, _ => rfl
  · match s, h with
    | .start, _ | .timeUp, _ | .turn, _ | .closed, _ | .outcome _, _ => rfl

theorem awaited_control {p : Plan} (h : m.Reached p) (c : Course) : (m.receive now (m.awaited c)).control = m.control := by
  have hfixed := (receive_fixed h.inv h.plan rfl now (awaited_plays c m).isOfRun).2
  rw [hfixed]
  cases hph : m.phase with
  | inFlight a o => cases o <;> simp only [awaited, hph, Control.after]
  | backingOff a slept => cases slept <;> simp only [awaited, hph, Control.after]
  | _ => simp only [awaited, hph, Control.after]

/-- **A run that is not paused ends** with the signals that it waits for. -/
theorem served_isOver {p : Plan} (c : Course) (n : Nat) : ∀ (clock : Nat → Moment) {m m' : Monitor}, m.Reached p →
    m.Tracks m' → m.control = {} → m.phase.toGo p ≤ n → (m.receiveAll (m.served c n clock)).isOver = true := by
  induction n with
  | zero =>
    intro clock m m' _ ht _ hn
    by_contra ho
    have hpos := ht.unstopped.toGo_pos (Bool.eq_false_iff.mpr ho) p
    omega
  | succ n ih =>
    intro clock m m' h ht hc hn
    have hplays := awaited_plays c m
    obtain ⟨k, hnext⟩ := Tracks.receiveAll [(clock 0, m.awaited c)] ht ⟨hplays, trivial⟩
    refine ih _ (h.receive (clock 0) hplays.isOfRun) hnext ((awaited_control h c).trans hc) ?_
    -- each signal takes one off what is left, unless nothing is
    by_cases ho : m.isOver = true
    · have hzero : m.phase.toGo p = 0 := by
        rcases isOver_iff.mp ho with hph | ⟨f, hph⟩
        · rw [hph, Phase.toGo]
        · rw [hph, Phase.toGo]
      show (m.receive (clock 0) (m.awaited c)).phase.toGo p ≤ n
      rw [receive_awaited_over c ho, hzero]
      exact Nat.zero_le n
    · have hlt := awaited_toGo h ht.unstopped hc (Bool.eq_false_iff.mpr ho) c (clock 0)
      exact Nat.le_of_lt_succ (Nat.lt_of_lt_of_le hlt hn)

theorem served_played (c : Course) (n : Nat) : ∀ (clock : Nat → Moment) (m : Monitor), m.Played c (m.served c n clock) := by
  induction n with
  | zero => exact fun _ _ => trivial
  | succ n ih => exact fun clock m => ⟨awaited_plays c m, ih _ _⟩

/-- A run that is played stands at what a run can come to, and no one has stopped it. -/
theorem Reached.played {p : Plan} {c : Course} (signals : List (Moment × Signal)) : ∀ {m : Monitor}, m.Reached p →
    m.control.stopped = false → m.Played c signals →
      (m.receiveAll signals).Reached p ∧ (m.receiveAll signals).control.stopped = false := by
  induction signals with
  | nil => exact fun h hst _ => ⟨h, hst⟩
  | cons x signals ih =>
    intro m h hst hp
    have hs := hp.1.isOfRun
    refine ih (h.receive x.1 hs) ?_ hp.2
    rw [(receive_fixed h.inv h.plan rfl x.1 hs).2, Control.after_stopped, hst, hp.1.asksStop]
    rfl

theorem Reached.isFinished {p : Plan} (h : m.Reached p) (ho : m.isOver = true) : m.phase = .finished := by
  rcases isOver_iff.mp ho with hph | ⟨f, hph⟩
  · exact hph
  · have hinv := (h.inv (by simp [hph])).phase
    rw [hph] at hinv
    exact hinv.elim

def resumed (c : Course) (n : Nat) (clock : Nat → Moment) (m : Monitor) : List (Moment × Signal) :=
  (clock 0, .control .resume) :: (m.applyControl .resume).served c n fun i => clock (i + 1)

theorem resumed_finishes {p : Plan} (h : m.Reached p) (ht : m.Tracks m') (hst : m.control.stopped = false) (c : Course)
    (clock : Nat → Moment) :
    ∃ n, m.Played c (m.resumed c n clock) ∧ (m.receiveAll (m.resumed c n clock)).phase = .finished := by
  let woken := m.applyControl .resume
  let n := woken.phase.toGo p
  have hw : woken.Reached p := h.receive (clock 0) (s := .control .resume) rfl
  have hfree : woken.control = {} := congrArg (Control.mk false) hst
  have hplayed : m.Played c (m.resumed c n clock) := ⟨.inl rfl, served_played c n _ woken⟩
  have hover := served_isOver c n (fun i => clock (i + 1)) hw (ht.applyControl .resume rfl) hfree (Nat.le_refl n)
  exact ⟨n, hplayed, (h.played (m.resumed c n clock) hst hplayed).1.isFinished hover⟩

/-- **Pauses leave no trace.** Two runs of the same steps, with primitives that
end by the number of those called before, come to the same if they come to an
end, wherever they are paused and resumed: they have asked for the same, their
sessions are the same but for names and times, and so is what they have told but
for pauses. And a run that is resumed does come to its end. -/
theorem pauses_leave_no_trace {taskName : String} {plan : Plan} {c : Course} {now₁ now₂ : Instant} {id₁ id₂ : String}
    {control₁ control₂ : Control} {m₁ m₂ : Monitor} (hm₁ : create now₁ id₁ taskName plan control₁ = .ok m₁)
    (hm₂ : create now₂ id₂ taskName plan control₂ = .ok m₂) (hst₁ : control₁.stopped = false)
    (hst₂ : control₂.stopped = false) {run₁ run₂ : List (Moment × Signal)} (h₁ : m₁.Played c run₁)
    (h₂ : m₂.Played c run₂) :
    let last₁ := m₁.receiveAll run₁
    let last₂ := m₂.receiveAll run₂
    (last₁.phase = .finished → last₂.phase = .finished → last₁.asked = last₂.asked ∧
      last₁.session.bare = last₂.session.bare ∧ last₁.told = last₂.told) ∧
        ∀ clock, ∃ n, last₁.Played c (last₁.resumed c n clock) ∧
          (last₁.receiveAll (last₁.resumed c n clock)).phase = .finished := by
  intro last₁ last₂
  obtain ⟨k₁, ht₁⟩ := (create_tracks hm₁ hst₁).receiveAll run₁ h₁
  obtain ⟨k₂, ht₂⟩ := (create_tracks hm₂ hst₂).receiveAll run₂ h₂
  refine ⟨fun hfin₁ hfin₂ => ?_, fun clock => ?_⟩
  · have hover₁ := ht₁.isOver (by simp only [Monitor.isOver, hfin₁, last₁])
    have hover₂ := ht₂.isOver (by simp only [Monitor.isOver, hfin₂, last₂])
    rw [advance_unique c hover₁.isOver_right hover₂.isOver_right] at hover₁
    exact ⟨hover₁.asked.trans hover₂.asked.symm, hover₁.session.trans hover₂.session.symm,
      hover₁.told.trans hover₂.told.symm⟩
  · have hcontrol : m₁.control.stopped = false := by rw [create_eq hm₁]; exact hst₁
    obtain ⟨hreached, hst⟩ := (create_reached hm₁).played run₁ hcontrol h₁
    exact resumed_finishes hreached ht₁ hst c clock

end

private def balky : Plan where
  steps := [⟨"gate", 1, .click "#gate", [], ⟨false, 1⟩⟩]
  delay _ _ := .ok (.part (.ofNat 1))

private def balkyCourse : Course where
  respond n _ := if n = 0 then .raised (.foreign "ValueError" "boom") else .finished .nothing
  delay _ _ := .part (.ofNat 1)

private def daybreak : Moment := .ofSeconds (.ofNat 0)

private def sunrise : Moment := .ofSeconds (.ofNat 3600)

private def freshBalky (now : Moment) (control : Control) : Monitor :=
  { plan := balky, session := .ofSteps now.wall "session" "task" balky.steps, control }

private def straightThrough : List (Moment × Signal) :=
  [.start, .outcome (balkyCourse.respond 0 (.click "#gate")), .turn, .timeUp, .turn,
    .outcome (balkyCourse.respond 1 (.click "#gate")), .turn].map (daybreak, ·)

/-- The run begins under a pause and is paused again between its attempts. -/
private def heldUp : List (Moment × Signal) :=
  [.start, .turn, .control .resume, .control .pause, .turn, .outcome (balkyCourse.respond 0 (.click "#gate")), .turn,
    .timeUp, .control .resume, .control .pause, .turn, .outcome (balkyCourse.respond 1 (.click "#gate")), .turn].map
      (sunrise, ·)

theorem pauses_leave_no_trace_heldUp :
    create daybreak.wall "session" "task" balky {} = .ok (freshBalky daybreak {}) ∧
      create sunrise.wall "session" "task" balky ⟨true, false⟩ = .ok (freshBalky sunrise ⟨true, false⟩) ∧
        (freshBalky daybreak {}).Played balkyCourse straightThrough ∧
          (freshBalky sunrise ⟨true, false⟩).Played balkyCourse heldUp ∧
            ((freshBalky sunrise ⟨true, false⟩).receiveAll heldUp).asked =
              [.perform (.click "#gate"), .sleep (.part (.ofNat 1)), .perform (.click "#gate")] ∧
              ((freshBalky daybreak {}).receiveAll straightThrough).session.bare =
                ((freshBalky sunrise ⟨true, false⟩).receiveAll heldUp).session.bare ∧
              ((freshBalky daybreak {}).receiveAll straightThrough).told =
                ((freshBalky sunrise ⟨true, false⟩).receiveAll heldUp).told := by
  have hcreate : create daybreak.wall "session" "task" balky {} = .ok (freshBalky daybreak {}) := rfl
  have hcreate' : create sunrise.wall "session" "task" balky ⟨true, false⟩ =
      .ok (freshBalky sunrise ⟨true, false⟩) := rfl
  have hplayed : (freshBalky daybreak {}).Played balkyCourse straightThrough := by
    refine ⟨.inr trivial, .inr fun a _ => ?_, .inr trivial, .inr trivial, .inr trivial, .inr fun a _ => ?_,
      .inr trivial, trivial⟩
    · rfl
    · rfl
  have hplayed' : (freshBalky sunrise ⟨true, false⟩).Played balkyCourse heldUp := by
    refine ⟨.inr trivial, .inr trivial, .inl rfl, .inl rfl, .inr trivial, .inr fun a _ => ?_, .inr trivial, .inr trivial,
      .inl rfl, .inl rfl, .inr trivial, .inr fun a _ => ?_, .inr trivial, trivial⟩
    · rfl
    · rfl
  have hfin : ((freshBalky daybreak {}).receiveAll straightThrough).phase = .finished := by rfl
  have hfin' : ((freshBalky sunrise ⟨true, false⟩).receiveAll heldUp).phase = .finished := by rfl
  have hasked : ((freshBalky daybreak {}).receiveAll straightThrough).asked =
      [.perform (.click "#gate"), .sleep (.part (.ofNat 1)), .perform (.click "#gate")] := by rfl
  obtain ⟨hsame, hrest⟩ := (pauses_leave_no_trace hcreate hcreate' rfl rfl hplayed hplayed').1 hfin hfin'
  exact ⟨hcreate, hcreate', hplayed, hplayed', hsame.symm.trans hasked, hrest⟩

end Monitor

end BrowserPilot
