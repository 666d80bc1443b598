import BrowserPilot.Proofs.Monitor.Rest

/-!
# Stops

A stop is final. Nothing is begun after it, a primitive that still runs may end
within the time of grace, and the browser is closed once, behind the last
record. The run ends as soon as what it then waits for has come.
-/

namespace BrowserPilot

/-! ## The ends of attempts -/

/-- The record of an attempt that is the last one of its step, by its outcome;
without one it has been cut short. -/
def StepStatus.endedBy (now : Moment) (step : Step) (a : Attempt) (st : StepStatus) : Option Outcome → StepStatus
  | none => (st.faulted .failed "stopped" "stopped while running").closed now.wall
  | some (.finished r) =>
    match st.store a.action.kind r with
    | .ok st' => (st'.passed a.fallback).closed now.wall
    | .error f => st.abandoned now.wall (Monitor.reasonOf f)
  | some (.raised (.sessionInit message)) => st.abandoned now.wall (Monitor.reasonOf (.sessionInit message))
  | some (.raised f) =>
    let e := f.asStepFault step.id
    if step.policy.ignoresErrors then (st.faulted .skipped e.message ("error ignored: " ++ e.message)).closed now.wall
    else (st.faulted .failed e.message (Monitor.failureLine a e)).closed now.wall

theorem StepStatus.endedBy_raised (now : Moment) (step : Step) (a : Attempt) (st : StepStatus) {f : Fault}
    (hf : ∀ message, f ≠ .sessionInit message) : st.endedBy now step a (some (.raised f)) =
      if step.policy.ignoresErrors then
        (st.faulted .skipped (f.asStepFault step.id).message ("error ignored: " ++ (f.asStepFault step.id).message)).closed
          now.wall
      else (st.faulted .failed (f.asStepFault step.id).message (Monitor.failureLine a (f.asStepFault step.id))).closed
        now.wall := by
  cases f with
  | sessionInit message => exact absurd rfl (hf message)
  | _ => rfl

theorem StepStatus.endedBy_final (now : Moment) (step : Step) (a : Attempt) (st : StepStatus) (o : Option Outcome) :
    (st.endedBy now step a o).final = true := by
  unfold StepStatus.endedBy
  split
  · rfl
  · split <;> rfl
  · rfl
  · simp only
    split <;> rfl

def Signal.outcome? : Signal → Option Outcome
  | .outcome o => some o
  | _ => none

def firstOutcome (signals : List (Moment × Signal)) : Option Outcome := signals.findSome? fun x => x.2.outcome?

theorem firstOutcome_cons (x : Moment × Signal) (signals : List (Moment × Signal)) :
    firstOutcome (x :: signals) = x.2.outcome?.or (firstOutcome signals) := by
  unfold firstOutcome
  rw [List.findSome?_cons]
  cases x.2.outcome? <;> rfl

theorem Signal.isOfRun_of_asksStop {s : Signal} (h : s.asksStop = true) : s.isOfRun = true := by
  cases s <;> first | rfl | cases h

namespace Phase

def attempt? : Phase → Option (Attempt × Option Outcome)
  | .inFlight a o | .inGrace a o _ => some (a, o)
  | _ => none

/-- What a stopped run still has to see before it cuts a primitive short. -/
def graceLeft : Phase → List Signal
  | .inFlight _ _ => [.turn, .timeUp]
  | .inGrace _ _ false => [.timeUp]
  | _ => []

/-- How far a stopped run has come on its way to the end. -/
def rank : Phase → Nat
  | .ready => 0
  | .parked _ _ | .inFlight _ _ | .backingOff _ _ => 1
  | .inGrace _ none false => 2
  | .inGrace _ _ _ => 3
  | .closing => 4
  | .finished | .raised _ => 5

end Phase

/-- What a stopped run waits for, whatever it was at. -/
def closingDown : List Signal := [.start, .turn, .timeUp, .turn, .closed]

namespace Monitor

/-! ## Moves of a stopped run -/

section
variable {m : Monitor}

theorem Enters.quits {now : Moment} {post : List Step} {done : List StepStatus} {r : Monitor × Next}
    (h : Enters now m done post r) (hst : m.control.stopped = true) : Quits (.ok r) := by
  cases h with
  | past | stopped _ => trivial
  | paused h _ | begun h _ => exact absurd (h.symm.trans hst) nofun

theorem GivesUp.quits {now : Moment} {post : List Step} {done : List StepStatus} {st : StepStatus} {r : Monitor × Next}
    (h : GivesUp now m post done st r) (hst : m.control.stopped = true) : Quits (.ok r) := by
  cases h with
  | aborts _ => trivial
  | goesOn _ h => exact h.enters.quits hst

theorem Fails.quits {now : Moment} {a : Attempt} {step : Step} {post : List Step} {done : List StepStatus}
    {st : StepStatus} {e : StepFault} {r : Except Halt (Monitor × Next)} (h : Fails now m a step post done st e r)
    (hst : m.control.stopped = true) : Quits r := by
  cases h with
  | skipped _ h => exact h.enters.quits hst
  | retrying _ _ h _ | undelayed _ _ h _ => exact absurd (h.symm.trans hst) nofun
  | exhausted _ _ h => exact h.quits hst

/-- **A stopped run leaves the step loop** with its next move, or first grants a primitive the time of grace. -/
theorem Turns.quits {now : Moment} {r : Except Halt (Monitor × Next)} (h : Turns now m r)
    (hst : m.control.stopped = true) (hi : m.isReady = true) :
    Quits r ∨ ∃ a, m.phase = .inFlight a none ∧ r = .ok (m.gracing now a, .wait) := by
  cases h with
  | idle h => exact absurd (hi.symm.trans h) nofun
  | unparked _ _ | resumedPast _ _ _ | unstored _ _ _ _ | lost _ _ _ | cancelled _ _ _ => exact .inl trivial
  | resumed _ h _ _ | retried _ h _ _ => exact absurd (h.symm.trans hst) nofun
  | passed _ _ _ _ h => exact .inl (h.enters.quits hst)
  | failed _ _ _ _ h => exact .inl (h.quits hst)
  | graced hph _ _ _ => exact .inr ⟨_, hph, rfl⟩
  | deserted _ _ _ _ h => exact .inl (h.quits (by rw [stopping_control]; exact hst))

end

/-- A run that is stopped before its end, or has been. -/
structure Halting (p : Plan) (m : Monitor) : Prop extends m.Reached p where
  stopped : m.control.stopped = true
  rests : m.Rests

section
variable {m : Monitor} {p : Plan} (h : m.Halting p)
include h

theorem Halting.receive (now : Moment) {s : Signal} (hs : s.isOfRun = true) : (m.receive now s).Halting p := by
  refine ⟨h.toReached.receive now hs, ((receive_follows h.inv now hs).stopped h.stopped).control, ?_⟩
  rcases receive_rests h.inv h.rests now hs with hr | ⟨_, hst⟩
  · exact hr
  · exact absurd (hst.symm.trans h.stopped) nofun

theorem Halting.receiveAll (signals : List (Moment × Signal)) (hs : ∀ x ∈ signals, x.2.isOfRun = true) :
    (m.receiveAll signals).Halting p := by
  induction signals using List.reverseRecOn with
  | nil => exact h
  | append_singleton signals x ih =>
    rw [receiveAll_snoc]
    exact (ih fun y hy => hs y (by simp [hy])).receive x.1 (hs x (by simp))

/-- A turn that is due takes a stopped run to the closing of the browser or into the time of grace. -/
theorem Halting.turn_rank {now : Moment} {c : Control} {r : Except Halt (Monitor × Next)} (hi : m.isReady = true)
    (ht : Turns now m r) (hl : Lands p c r) : m.phase.rank < (afterMove now r).phase.rank := by
  have hlow : m.phase.rank < 4 := by
    unfold isReady at hi
    cases hphase : m.phase with
    | inGrace a o expired => cases o <;> cases expired <;> simp [Phase.rank]
    | parked _ _ | inFlight _ _ | backingOff _ _ => simp [Phase.rank]
    | ready | closing | finished | raised _ => simp [hphase] at hi
  rcases ht.quits h.stopped hi with hq | ⟨a, hphase, hr⟩
  · rw [(afterMove_quits now hl hq).1]
    split
    · exact hlow
    · exact hlow.trans (Nat.lt_succ_self 4)
  · simp only [hr, afterMove, hphase]
    exact Nat.lt_succ_self 1

/-- What a stopped run waits for is not passed over. -/
theorem Halting.heeds {s : Signal} (hnext : closingDown[m.phase.rank]? = some s) : ¬m.Misses s := by
  intro hmiss
  cases hphase : m.phase with
  | ready =>
    rw [hphase] at hnext
    obtain rfl : Signal.start = s := Option.some.inj hnext
    exact hmiss hphase
  | parked i woken =>
    rw [hphase] at hnext
    obtain rfl : Signal.turn = s := Option.some.inj hnext
    cases woken with
    | true => simp [Misses, isReady, hphase] at hmiss
    | false => cases (h.rests.asleep i hphase).2.symm.trans h.stopped
  | inFlight a o | backingOff a slept =>
    rw [hphase] at hnext
    obtain rfl : Signal.turn = s := Option.some.inj hnext
    simp [Misses, isReady, hphase, h.stopped] at hmiss
  | inGrace a o expired =>
    rw [hphase] at hnext
    cases o with
    | some _ =>
      obtain rfl : Signal.turn = s := Option.some.inj hnext
      simp [Misses, isReady, hphase] at hmiss
    | none =>
      cases expired with
      | true =>
        obtain rfl : Signal.turn = s := Option.some.inj hnext
        simp [Misses, isReady, hphase] at hmiss
      | false =>
        obtain rfl : Signal.timeUp = s := Option.some.inj hnext
        exact hmiss ⟨_, hphase ▸ Phase.Hears.graceOver a none⟩
  | closing =>
    rw [hphase] at hnext
    obtain rfl : Signal.closed = s := Option.some.inj hnext
    exact hmiss hphase
  | finished | raised f =>
    rw [hphase] at hnext
    cases hnext

/-- **A stopped run only comes closer to its end**, and what it waits for takes it on. -/
theorem Halting.receive_rank (now : Moment) {s : Signal} (hs : s.isOfRun = true) :
    m.phase.rank ≤ (m.receive now s).phase.rank ∧
      (closingDown[m.phase.rank]? = some s → m.phase.rank < (m.receive now s).phase.rank) := by
  have hcalled (call : ControlCall) : (m.applyControl call).phase.rank = m.phase.rank :=
    applyControl_ofPhase Phase.rank (fun _ _ _ => rfl) m call
  have hreceives := receive_receives h.inv now hs
  generalize m.receive now s = m' at hreceives
  cases hreceives with
  | called call => exact ⟨(hcalled call).ge, fun hnext => by simpa [closingDown] using List.mem_of_getElem? hnext⟩
  | halted =>
    rw [stopping_phase]
    exact ⟨(hcalled .stop).ge, fun hnext => by simpa [closingDown] using List.mem_of_getElem? hnext⟩
  | begun _ hready _ _ he hl =>
    rw [(afterMove_quits now hl (he.quits h.stopped)).1, hready]
    split <;> exact ⟨Nat.zero_le _, fun _ => Nat.zero_lt_succ _⟩
  | turned _ hi ht hl =>
    have hlt := h.turn_rank hi ht hl
    exact ⟨hlt.le, fun _ => hlt⟩
  | heard hh =>
    generalize m.phase = ph at hh
    cases hh with
    | outcome a o => exact ⟨le_rfl, nofun⟩
    | outcomeInGrace a expired o =>
      cases expired with
      | true => exact ⟨le_rfl, nofun⟩
      | false => exact ⟨Nat.le_succ 2, nofun⟩
    | graceOver a o => cases o <;> simp [Phase.rank, closingDown]
    | delayOver a => exact ⟨le_rfl, nofun⟩
  | closed _ hclosing =>
    rw [hclosing]
    exact ⟨Nat.le_succ 4, fun _ => Nat.lt_succ_self 4⟩
  | missed hmiss => exact ⟨le_rfl, fun hnext => absurd hmiss (h.heeds hnext)⟩

end

/-- **A stopped run ends** once it has been given, in order, what it can have to wait for. -/
theorem Halting.finishes {p : Plan} (signals : List (Moment × Signal)) : ∀ {m : Monitor} (k : Nat), m.Halting p →
    (∀ x ∈ signals, x.2.isOfRun = true) → (closingDown.drop k).Sublist (signals.map (·.2)) → k ≤ m.phase.rank →
      (m.receiveAll signals).phase = .finished := by
  induction signals with
  | nil =>
    intro m k h _ hsub hk
    have hlen : closingDown.length ≤ k := List.drop_eq_nil_iff.mp (List.sublist_nil.mp hsub)
    have hfive : 5 ≤ m.phase.rank := hlen.trans hk
    show m.phase = .finished
    by_contra hn
    have hph := (h.inv hn).phase
    cases hphase : m.phase with
    | finished => exact hn hphase
    | raised f => rw [hphase] at hph; exact hph
    | inGrace a o expired => rw [hphase] at hfive; cases o <;> cases expired <;> simp [Phase.rank] at hfive
    | _ => simp [hphase, Phase.rank] at hfive
  | cons x signals ih =>
    intro m k h hs hsub hk
    have hx := hs x (by simp)
    obtain ⟨hle, hlt⟩ := h.receive_rank x.1 hx
    have hrest : ∀ y ∈ signals, y.2.isOfRun = true := fun y hy => hs y (by simp [hy])
    rw [List.map_cons] at hsub
    rcases List.sublist_cons_iff.mp hsub with hsub | ⟨tail, hdrop, hsub⟩
    · exact ih k (h.receive x.1 hx) hrest hsub (hk.trans hle)
    · have hhead : closingDown[k]? = some x.2 := by
        rw [← List.head?_drop, hdrop]
        rfl
      have htail : closingDown.drop (k + 1) = tail := by
        rw [← List.tail_drop, hdrop]
        rfl
      refine ih (k + 1) (h.receive x.1 hx) hrest (htail ▸ hsub) ?_
      rcases Nat.lt_or_ge k m.phase.rank with hkm | hkm
      · exact Nat.le_trans hkm hle
      · have heq : m.phase.rank = k := Nat.le_antisymm hkm hk
        exact heq ▸ hlt (heq ▸ hhead)

/-! ## Primitives that outlast a stop -/

theorem Sees.attempt? {m : Monitor} {a : Attempt} {o : Outcome} (h : m.Sees a o) :
    m.phase.attempt? = some (a, some o) := by
  rcases h with h | ⟨expired, h⟩ <;> rw [h] <;> rfl

section
variable {m : Monitor} {p : Plan} {c : Control} {now : Moment} {r : Except Halt (Monitor × Next)} {a : Attempt}
  {o : Option Outcome} {step : Step} {post : List Step} {done : List StepStatus} {st : StepStatus}

theorem settled_record {t : StepStatus} {rest : List StepStatus} (hf : (m.settling now done t rest).Follows (leftBy r))
    (hl : Lands p c r) : (afterMove now r).session.steps[done.length]? = some (t.closed now.wall) := by
  have h₀ : (m.settling now done t rest).session.steps[done.length]? = some (t.closed now.wall) := by simp
  exact (afterMove_follows hl now).records _ _ (hf.records _ _ h₀ rfl) rfl

/-- A fault fails the step to which the run has come and those that have not been tried. -/
theorem At.abandoned_steps (h : m.At step post done st) (now : Moment) (f : Fault) :
    (afterMove now (.error ⟨m, f⟩)).session.steps = done ++ st.abandoned now.wall (reasonOf f) ::
      (post.map StepStatus.ofStep).map (StepStatus.abandoned now.wall (reasonOf f)) := by
  obtain ⟨pre, _, hcut⟩ := h
  let m₀ := m.emit now .error [("error", .str f.message)]
  have hwound := Session.Cut.winding (m := m₀) now (reasonOf f) hcut
  rw [afterMove_error now hcut, (ending_effect now hwound.steps).2.2]
  simp

theorem At.abandoned_record (h : m.At step post done st) (now : Moment) (f : Fault) :
    (afterMove now (.error ⟨m, f⟩)).session.steps[done.length]? = some (st.abandoned now.wall (reasonOf f)) := by
  rw [h.abandoned_steps now f]
  simp

theorem Tries.unique (h : m.Tries a step post done st) {step' : Step} {st' : StepStatus}
    (hstep : m.plan.steps[a.index]? = some step') (hst : m.session.steps[a.index]? = some st') : step = step' ∧ st = st' := by
  rw [h.index] at hstep hst
  refine ⟨Option.some.inj (h.here.step_eq.symm.trans hstep), ?_⟩
  rw [h.here.steps] at hst
  simpa using hst

theorem GivesUp.settled {t : StepStatus} {r : Monitor × Next} (hs : m.session.StandsAt .running m.control.stopped)
    (hn : GivesUp now m post done t r) (hl : Lands p c (.ok r)) :
    (afterMove now (.ok r)).session.steps[done.length]? = some (t.closed now.wall) :=
  settled_record (r := .ok r) (hn.follows hs) hl

/-- **The last move at an attempt of a stopped run**: its outcome settles the
step, or it is cut short once its time is up. -/
theorem Turns.settles (ht : Turns now m r) (hs : m.session.StandsAt .running m.control.stopped) (hl : Lands p c r)
    (hst : m.control.stopped = true) (hi : m.isReady = true) (ha : m.phase.attempt? = some (a, o))
    (hstep : m.plan.steps[a.index]? = some step) (hrec : m.session.steps[a.index]? = some st) :
    ((afterMove now r).session.steps[a.index]? = some (st.endedBy now step a o) ∧ (o = none → m.phase.graceLeft = [])) ∨
      m.phase = .inFlight a none ∧ r = .ok (m.gracing now a, .wait) := by
  cases ht with
  | idle h => exact absurd (hi.symm.trans h) nofun
  -- in front of a step and between two attempts there is none to settle
  | unparked hph _ | resumed hph _ _ _ | resumedPast hph _ _ | deserted hph _ _ _ _ | retried hph _ _ _ =>
    rw [hph] at ha
    cases ha
  | passed hsee htry _ ho hn =>
    cases hsee.attempt?.symm.trans ha
    obtain ⟨rfl, rfl⟩ := htry.unique hstep hrec
    refine .inl ⟨?_, nofun⟩
    rw [htry.index]
    simp only [StepStatus.endedBy, ho]
    exact settled_record (r := .ok _) (hn.follows hs) hl
  | unstored hsee htry _ ho =>
    cases hsee.attempt?.symm.trans ha
    obtain ⟨rfl, rfl⟩ := htry.unique hstep hrec
    refine .inl ⟨?_, nofun⟩
    rw [htry.index]
    simp only [StepStatus.endedBy, ho]
    exact htry.here.abandoned_record now _
  | lost hsee htry _ =>
    cases hsee.attempt?.symm.trans ha
    obtain ⟨rfl, rfl⟩ := htry.unique hstep hrec
    refine .inl ⟨?_, nofun⟩
    rw [htry.index]
    exact htry.here.abandoned_record now _
  | failed hsee hf htry _ hn =>
    cases hsee.attempt?.symm.trans ha
    obtain ⟨rfl, rfl⟩ := htry.unique hstep hrec
    refine .inl ⟨?_, nofun⟩
    rw [htry.index, StepStatus.endedBy_raised _ _ _ _ hf]
    cases hn with
    | skipped hig hn =>
      rw [if_pos hig]
      exact settled_record (r := .ok _) (hn.follows hs) hl
    | retrying _ _ h _ | undelayed _ _ h _ => exact absurd (h.symm.trans hst) nofun
    | exhausted hig _ hn =>
      rw [hig, if_neg Bool.false_ne_true]
      exact hn.settled (m := m.failing _ _ _ a _) hs hl
  | graced hph _ _ _ =>
    rw [hph] at ha
    cases ha
    exact .inr ⟨hph, rfl⟩
  | cancelled hph htry _ =>
    rw [hph] at ha ⊢
    cases ha
    obtain ⟨rfl, rfl⟩ := htry.unique hstep hrec
    refine .inl ⟨?_, fun _ => rfl⟩
    rw [htry.index]
    exact settled_record (r := .ok _) (.refl _) hl

end

section
variable {m : Monitor} {p : Plan} {a : Attempt} {o : Option Outcome} {step : Step} {st : StepStatus}

theorem Inv.standsAt {c : Control} (h : m.Inv p c) (ha : m.phase.attempt? = some (a, o)) :
    m.session.StandsAt .running m.control.stopped := by
  obtain ⟨_, rfl, hph⟩ := h
  cases hphase : m.phase with
  | inFlight a o | inGrace a o expired =>
    rw [hphase] at hph
    exact hph.1
  | _ => simp [hphase, Phase.attempt?] at ha

/-- What a signal leaves of a monitor at an attempt that it does not end. -/
structure StaysAt (m : Monitor) (a : Attempt) (o : Option Outcome) (s : Signal) (m' : Monitor) : Prop where
  attempt : m'.phase.attempt? = some (a, o.or s.outcome?)
  steps : m'.session.steps = m.session.steps
  grace : m.phase.graceLeft.Sublist (s :: m'.phase.graceLeft)

variable {s : Signal} (ha : m.phase.attempt? = some (a, o))
include ha

theorem StaysAt.applyControl (hs : s.outcome? = none) (call : ControlCall) : m.StaysAt a o s (m.applyControl call) := by
  refine ⟨?_, rfl, ?_⟩
  · rw [applyControl_ofPhase Phase.attempt? (fun _ _ _ => rfl), ha, hs, Option.or_none]
  · rw [applyControl_ofPhase Phase.graceLeft fun _ _ _ => rfl]
    exact List.sublist_cons_self _ _

theorem StaysAt.heard {ph : Phase} (hh : m.phase.Hears s ph) : m.StaysAt a o s { m with phase := ph } := by
  refine ⟨?_, rfl, ?_⟩
  all_goals generalize m.phase = ph₀ at ha hh
  · cases hh <;> cases ha <;> simp [Phase.attempt?, Signal.outcome?]
  · cases hh with
    | outcome _ _ | delayOver _ => exact List.sublist_cons_self _ _
    | outcomeInGrace _ expired _ => cases expired <;> exact List.sublist_cons_self _ _
    | graceOver _ _ => exact List.Sublist.refl _

theorem StaysAt.missed (hmiss : m.Misses s) : m.StaysAt a o s m := by
  refine ⟨?_, rfl, List.sublist_cons_self _ _⟩
  rw [ha]
  match s, o with
  | .outcome o', none =>
    -- an outcome is passed over only behind another one
    refine absurd ?_ hmiss
    cases hphase : m.phase with
    | inFlight a' known =>
      rw [hphase] at ha
      cases ha
      exact ⟨_, .outcome a o'⟩
    | inGrace a' known expired =>
      rw [hphase] at ha
      cases ha
      exact ⟨_, .outcomeInGrace a expired o'⟩
    | _ => simp [hphase, Phase.attempt?] at ha
  | _, some _ => rfl
  | .start, none | .fail _, none | .control _, none | .stop, none | .timeUp, none | .turn, none | .closed, none => rfl

variable (h : m.Halting p)
include h

/-- **Every signal to a stopped run leaves the attempt as it is**, or it is the
turn that takes the outcome that has come or cuts the attempt short. -/
theorem Halting.receive_waits (now : Moment) {s : Signal} (hs : s.isOfRun = true) (hstep : p.steps[a.index]? = some step)
    (hrec : m.session.steps[a.index]? = some st) :
    (s = .turn ∧ (m.receive now s).session.steps[a.index]? = some (st.endedBy now step a o) ∧
      (o = none → m.phase.graceLeft = [])) ∨ m.StaysAt a o s (m.receive now s) := by
  have hreceives := receive_receives h.inv now hs
  generalize m.receive now s = m' at hreceives
  cases hreceives with
  | called call => exact .inr (.applyControl ha rfl call)
  | halted =>
    have hstop := StaysAt.applyControl (s := .stop) ha rfl .stop
    refine .inr ⟨?_, ?_, ?_⟩
    · rw [stopping_phase]
      exact hstop.attempt
    · rw [stopping_steps]
      exact hstop.steps
    · rw [stopping_phase]
      exact hstop.grace
  | begun _ hready _ _ _ _ => simp [hready, Phase.attempt?] at ha
  | turned hinv hi ht hl =>
    rcases ht.settles (hinv.standsAt ha) hl h.stopped hi ha (h.plan.symm ▸ hstep) hrec with hset | ⟨hphase, hr⟩
    · exact .inl ⟨rfl, hset⟩
    · rw [hphase] at ha
      cases ha
      rw [hr]
      exact .inr ⟨rfl, stopping_steps now m, hphase ▸ List.Sublist.refl _⟩
  | heard hh => exact .inr (.heard ha hh)
  | closed _ hclosing => simp [hclosing, Phase.attempt?] at ha
  | missed hmiss => exact .inr (.missed ha hmiss)

end

/-! ## Stopped runs -/

section
variable {m : Monitor} {p : Plan} {c : Control} {now : Instant} {id taskName : String}

theorem Halting.follows (h : m.Halting p) (signals : List (Moment × Signal)) (hs : ∀ x ∈ signals, x.2.isOfRun = true) :
    m.Follows (m.receiveAll signals) := by
  induction signals using List.reverseRecOn with
  | nil => exact .refl m
  | append_singleton signals x ih =>
    have hs' : ∀ y ∈ signals, y.2.isOfRun = true := fun y hy => hs y (by simp [hy])
    rw [receiveAll_snoc]
    exact (ih hs').trans (receive_follows (h.receiveAll signals hs').inv x.1 (hs x (by simp)))

/-- **A primitive that outlasts a stop** ends as its first outcome says, if one
comes before the turn that asks for it, and is cut short otherwise. -/
theorem Halting.settles {a : Attempt} {step : Step} {st : StepStatus} (signals : List (Moment × Signal)) :
    ∀ {m : Monitor} {o : Option Outcome}, m.Halting p → m.phase.attempt? = some (a, o) →
      (∀ x ∈ signals, x.2.isOfRun = true) → p.steps[a.index]? = some step → m.session.steps[a.index]? = some st →
        (m.receiveAll signals).phase = .finished → ∃ waited t left, signals = waited ++ (t, .turn) :: left ∧
          (m.receiveAll signals).session.steps[a.index]? = some (st.endedBy t step a (o.or (firstOutcome waited))) ∧
            (o.or (firstOutcome waited) = none → m.phase.graceLeft.Sublist (waited.map (·.2))) := by
  induction signals with
  | nil =>
    intro m o _ ha _ _ _ hfin
    rw [show m.phase = .finished from hfin] at ha
    cases ha
  | cons x signals ih =>
    intro m o h ha hs hstep hrec hfin
    have hx := hs x (by simp)
    have hrest : ∀ y ∈ signals, y.2.isOfRun = true := fun y hy => hs y (by simp [hy])
    have hnext := h.receive x.1 hx
    rcases h.receive_waits ha x.1 hx hstep hrec with ⟨hturn, hset, hgrace⟩ | ⟨ha', hsteps, hsub⟩
    · have hnone : o.or (firstOutcome []) = o := Option.or_none
      refine ⟨[], x.1, signals, by rw [← hturn]; rfl, ?_, fun ho => ?_⟩
      · rw [hnone]
        exact (hnext.follows signals hrest).records _ _ hset (StepStatus.endedBy_final ..)
      · rw [hgrace (hnone.symm.trans ho)]
        exact List.nil_sublist _
    · obtain ⟨waited, t, left, hsplit, hset, hgrace⟩ := ih hnext ha' hrest hstep (hsteps ▸ hrec) hfin
      have hfirst : o.or (firstOutcome (x :: waited)) = (o.or x.2.outcome?).or (firstOutcome waited) := by
        rw [firstOutcome_cons, Option.or_assoc]
      refine ⟨x :: waited, t, left, by rw [hsplit]; rfl, ?_, fun ho => ?_⟩
      · rw [hfirst]
        exact hset
      · exact hsub.trans ((hgrace (hfirst.symm.trans ho)).cons_cons x.2)

theorem Reached.halting (h : m.Reached p) (hn : m.phase ≠ .finished) (t : Moment) {s : Signal} (hstop : s.asksStop = true) :
    (m.receive t s).Halting p := by
  have hrun := Signal.isOfRun_of_asksStop hstop
  have hst : (m.receive t s).control.stopped = true := by
    rw [(receive_inv t (h.inv hn) hn hrun).control, Control.after_stopped, hstop, Bool.or_true]
  refine ⟨h.receive t hrun, hst, ?_⟩
  match s, hstop with
  | .control .stop, _ => exact (h.atRest hn).applyControl .stop
  | .stop, _ =>
    rw [receive_stop]
    exact ((h.atRest hn).applyControl .stop).stopping t

/-- The stop itself changes no record, calls nothing and wakes the run at most. -/
theorem receive_asksStop (m : Monitor) (t : Moment) {s : Signal} (hstop : s.asksStop = true) :
    (m.receive t s).session.steps = m.session.steps ∧ (m.receive t s).requests = m.requests ∧
      (m.receive t s).phase = (m.applyControl .stop).phase := by
  match s, hstop with
  | .control .stop, _ => exact ⟨rfl, rfl, rfl⟩
  | .stop, _ =>
    rw [receive_stop, stopping_steps, stopping_requests, stopping_phase]
    exact ⟨rfl, rfl, rfl⟩

/-- Before the end of a run, only a failed session is in its last state. -/
theorem Inv.failed_of_isTerminal (h : m.Inv p c) (hn : m.phase ≠ .finished) (ht : m.session.isTerminal = true) :
    m.session.state = .failed := by
  have hstands {state : SessionState} (hs : m.session.StandsAt state c.stopped) (hstate : state.isTerminal = false) :
      m.session.state = .failed := by
    rcases hs with ⟨hs, _⟩ | ⟨hs, _⟩
    · rw [Session.isTerminal, hs, hstate] at ht
      cases ht
    · exact hs
  have hph := h.phase
  cases hphase : m.phase with
  | ready =>
    rw [hphase] at hph
    exact hstands hph.2.1 rfl
  | parked _ _ | inFlight _ _ | inGrace _ _ _ | backingOff _ _ =>
    rw [hphase] at hph
    exact hstands hph.1 rfl
  | closing =>
    rw [hphase] at hph
    rw [hph.2.state, hph.1, Bool.not_true, Bool.and_false, if_neg Bool.false_ne_true]
  | finished => exact absurd hphase hn
  | raised f =>
    rw [hphase] at hph
    exact hph.elim

/-- A run that was stopped before its end has failed its session, settled its
records and told the browser to close once. -/
theorem Halting.finished (h : m.Halting p) (hn : m.phase ≠ .finished) (signals : List (Moment × Signal))
    (hs : ∀ x ∈ signals, x.2.isOfRun = true) (hfin : (m.receiveAll signals).phase = .finished) :
    (m.receiveAll signals).session.IsOver p true ∧ (m.receiveAll signals).closings = 1 := by
  obtain ⟨b, hover, hb⟩ := (h.inv hn).isOver signals hs hfin
  rw [hb h.stopped] at hover
  refine ⟨hover, ?_⟩
  rw [(h.receiveAll signals hs).rests.closings, hfin]
  rfl

/-- The browser is told to close behind the last record only. -/
theorem Halting.settled_of_closing (h : m.Halting p) (hn : m.phase ≠ .finished) (signals : List (Moment × Signal))
    (hs : ∀ x ∈ signals, x.2.isOfRun = true) (hclose : .closeBrowser ∈ (m.receiveAll signals).asked) :
    ∀ st ∈ (m.receiveAll signals).session.steps, st.isTerminal = true := by
  have hlater := h.receiveAll signals hs
  by_cases hfin : (m.receiveAll signals).phase = .finished
  · exact (h.finished hn signals hs hfin).1.cut.terminal
  · have hph := (hlater.inv hfin).phase
    have hpos : 0 < (m.receiveAll signals).phase.closings := by
      rw [← hlater.rests.closings]
      exact List.count_pos_iff.mpr hclose
    cases hphase : (m.receiveAll signals).phase with
    | closing =>
      rw [hphase] at hph
      exact hph.2.cut.terminal
    | finished => exact absurd hphase hfin
    | _ => simp [hphase, Phase.closings] at hpos

end

theorem Inv.inFlight_records {m : Monitor} {p : Plan} {c : Control} {a : Attempt} {o : Option Outcome} (h : m.Inv p c)
    (hphase : m.phase = .inFlight a o) :
    ∃ step st, p.steps[a.index]? = some step ∧ m.session.steps[a.index]? = some st := by
  have hph := h.phase
  rw [hphase] at hph
  obtain ⟨_, step, st, _, hatt⟩ := hph
  obtain ⟨post, done, htry⟩ := Tries.of_attempts h.plan hatt
  refine ⟨step, st, ?_, ?_⟩
  · rw [htry.index, ← h.plan]
    exact htry.here.step_eq
  · rw [htry.index, htry.here.steps]
    simp

private def twoLocks : Plan where
  steps := [⟨"upper", 1, .click "#upper", [], {}⟩, ⟨"lower", 2, .click "#lower", [], {}⟩]
  delay _ _ := .ok (.part (.ofNat 1))

private def dusk : Moment := .ofSeconds (.ofNat 0)

private def upperTurning : List (Moment × Signal) := [(dusk, .start)]

private def lockingUp : List (Moment × Signal) :=
  [.start, .turn, .outcome (.finished .nothing), .timeUp, .turn, .closed].map (dusk, ·)

private def freshLocks : Monitor := { plan := twoLocks, session := .ofSteps dusk.wall "session" "task" twoLocks.steps }

end Monitor

end BrowserPilot
