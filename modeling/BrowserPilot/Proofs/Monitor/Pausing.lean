import BrowserPilot.Proofs.Monitor.Rest

/-!
# Pauses

A paused token holds back every step that has not begun, with one exception: a
run that a resume has woken goes on with its next turn, even if it is paused
again before that.
-/

namespace BrowserPilot

def Signal.endsPause : Signal → Bool
  | .control .resume | .control .stop | .stop => true
  | _ => false

/-- A record that is not in hand: its step has not begun, or it is settled. -/
def StepStatus.IsIdle (st : StepStatus) : Prop := st.state = .pending ∨ st.isTerminal = true

theorem StepStatus.IsIdle.not_running {st : StepStatus} (h : st.IsIdle) : st.state ≠ .running := by
  rcases h with h | h
  · rw [h]
    nofun
  · exact not_running_of_isTerminal h

namespace Monitor

def Pends (i : Nat) (m : Monitor) : Prop := ∃ st, m.session.steps[i]? = some st ∧ st.state = .pending

def Idle (i : Nat) (m : Monitor) : Prop := ∀ st, m.session.steps[i]? = some st → st.IsIdle

def Still (m m' : Monitor) : Prop := ∀ i, m.Idle i → m'.Idle i

section
variable {m m₁ m₂ : Monitor} {i : Nat} {step : Step} {post : List Step} {done rest : List StepStatus} {st t : StepStatus}

theorem Idle.not_runs (h : m.Idle i) : ¬m.Runs i := by
  rintro ⟨st, hi, hr⟩
  exact (h st hi).not_running hr

theorem Pends.idle (h : m.Pends i) : m.Idle i := by
  obtain ⟨st, hi, hp⟩ := h
  intro st' hi'
  cases hi.symm.trans hi'
  exact .inl hp

theorem Still.trans (h : m.Still m₁) (h' : m₁.Still m₂) : m.Still m₂ := fun i hi => h' i (h i hi)

theorem Still.of_steps (hs : m₁.session.steps = m.session.steps) : m.Still m₁ := by
  intro i h st hi
  rw [hs] at hi
  exact h st hi

theorem Still.of_settled (h : ∀ st ∈ m₁.session.steps, st.isTerminal = true) : m.Still m₁ := by
  intro i _ st hi
  exact .inr (h st (List.mem_of_getElem? hi))

theorem Still.of_record (hs : m.session.steps = done ++ st :: rest) (hs₁ : m₁.session.steps = done ++ t :: rest)
    (ht : st.IsIdle → t.IsIdle) : m.Still m₁ := by
  intro i h st' hi
  rw [hs₁] at hi
  by_cases hid : i = done.length
  · subst hid
    have hst := h st (by simp [hs])
    have heq : t = st' := by simpa using hi
    exact heq ▸ ht hst
  · have hsame : (done ++ t :: rest)[i]? = m.session.steps[i]? := by
      have hset : done ++ t :: rest = m.session.steps.set done.length t := by simp [hs]
      rw [hset, List.getElem?_set_ne (Ne.symm hid)]
    exact h st' (hsame ▸ hi)

/-! ## Moves -/

theorem At.settling_still (h : m.At step post done st) (now : Moment) (ht : t.state.isTerminal = true) :
    m.Still (m.settling now done t (post.map StepStatus.ofStep)) := by
  refine .of_record h.steps (settling_steps ..) fun _ => .inr ?_
  simpa [StepStatus.isTerminal, StepStatus.closed] using ht

theorem At.busy_still (h : m.At step post done st) (hst : st.state ≠ .pending)
    (hs : m₁.session.steps = done ++ t :: post.map StepStatus.ofStep) : m.Still m₁ := by
  refine .of_record h.steps hs fun hidle => ?_
  rcases hidle with hp | ht
  · exact absurd hp hst
  · simp [StepStatus.isTerminal, h.isOpen.final] at ht

section
variable {now : Moment}

/-- **In front of a step a paused token holds.** -/
theorem Enters.still {r : Monitor × Next} (h : Enters now m done post r) (hpa : m.control.paused = true) : m.Still r.1 := by
  cases h with
  | past => exact .of_steps rfl
  | stopped _ => exact .of_steps (stopping_steps now m)
  | paused _ _ => exact .of_steps rfl
  | begun _ h => exact absurd (h.symm.trans hpa) nofun

theorem Advances.still {r : Monitor × Next} (hn : Advances now m post done t r) (h : m.At step post done st)
    (ht : t.state.isTerminal = true) (hpa : m.control.paused = true) : m.Still r.1 :=
  (h.settling_still now ht).trans (hn.enters.still hpa)

theorem GivesUp.still {r : Monitor × Next} (hn : GivesUp now m post done t r) (h : m.At step post done st)
    (ht : t.state.isTerminal = true) (hpa : m.control.paused = true) : m.Still r.1 := by
  cases hn with
  | aborts _ => exact h.settling_still now ht
  | goesOn _ hn => exact hn.still h ht hpa

theorem Fails.still {a : Attempt} {e : StepFault} {r : Except Halt (Monitor × Next)}
    (hn : Fails now m a step post done st e r) (h : m.At step post done st) (hr : st.state = .running)
    (hpa : m.control.paused = true) : m.Still (leftBy r) := by
  have hbusy : st.state ≠ .pending := by
    rw [hr]
    nofun
  have hfail : m.Still (m.failing done st (post.map StepStatus.ofStep) a e) :=
    h.busy_still (t := st.faulted .failed e.message (failureLine a e)) hbusy rfl
  cases hn with
  | skipped _ hn => exact hn.still h rfl hpa
  | retrying _ _ _ _ => exact hfail.trans (.of_steps rfl)
  | undelayed _ _ _ _ => exact hfail
  | exhausted _ _ hn => exact hfail.trans (hn.still (h.failing a e) rfl hpa)

/-- **A turn begins no step while the token is paused**, unless the run has been woken in front of it. -/
theorem Turns.still {r : Except Halt (Monitor × Next)} (ht : Turns now m r) (hpa : m.control.paused = true)
    (hi : m.Idle i) : (leftBy r).Idle i ∨ m.phase = .parked i true ∧ m.control.stopped = false := by
  have hstill (h : m.Still (leftBy r)) : (leftBy r).Idle i ∨ m.phase = .parked i true ∧ m.control.stopped = false :=
    .inl (h i hi)
  cases ht with
  | idle _ | unstored _ _ _ _ | lost _ _ _ => exact .inl hi
  | unparked _ _ => exact hstill (.of_steps (stopping_steps now m))
  | @resumed j step post done hph hst hj h =>
    by_cases hij : i = j
    · exact .inr ⟨hij ▸ hph, hst⟩
    · have hne : i ≠ done.length := hj ▸ hij
      refine .inl fun st' hi' => hi st' ?_
      rw [h.steps, ← List.getElem?_set_ne hne.symm (a := StepStatus.begun now.wall 1 _ (.ofStep step))]
      simpa [leftBy, attempting, withSteps] using hi'
  | resumedPast _ _ _ => exact hstill (.of_steps rfl)
  | passed _ h _ _ hn => exact hstill (hn.still h.here rfl hpa)
  | failed _ _ h hr hn => exact hstill (hn.still h.here hr hpa)
  | graced _ _ _ _ => exact hstill (.of_steps (stopping_steps now m))
  | cancelled _ h _ => exact hstill (h.here.settling_still now rfl)
  | deserted _ _ h hf hn =>
    have hterm := hn.still (h.here.stopping now) (by rw [hf]; rfl) (by rw [stopping_control]; exact hpa)
    exact hstill (Still.trans (.of_steps (stopping_steps now m)) hterm)
  | retried _ _ h hf => exact hstill (h.here.busy_still (by rw [hf]; decide) rfl)

end

end

/-! ## Signals -/

section
variable {m : Monitor} {p : Plan} {c : Control} {i : Nat}

theorem afterMove_still {r : Except Halt (Monitor × Next)} (hl : Lands p c r) (hq : Quits r) (now : Moment) :
    m.Still (afterMove now r) := by
  have hph := (afterMove_inv now hl).phase
  rw [(afterMove_quits now hl hq).1] at hph
  refine .of_settled ?_
  cases hst : c.stopped with
  | true =>
    rw [hst] at hph
    exact hph.2.cut.terminal
  | false =>
    rw [hst] at hph
    exact hph.cut.terminal

/-- **A signal begins no step while the token is paused**, unless it is the turn of a run that has been woken. -/
theorem receive_still (h : m.phase ≠ .finished → m.Inv p c) (hpa : m.control.paused = true) (now : Moment) {s : Signal}
    (hs : s.isOfRun = true) (hi : m.Idle i) :
    (m.receive now s).Idle i ∨ s = .turn ∧ m.phase = .parked i true ∧ m.control.stopped = false := by
  have hreceives := receive_receives h now hs
  generalize m.receive now s = m' at hreceives ⊢
  cases hreceives with
  | called call =>
    have hcalled : m.Still (m.applyControl call) := .of_steps rfl
    exact .inl (hcalled i hi)
  | halted => exact .inl (Still.of_steps (stopping_steps now (m.applyControl .stop)) i hi)
  | @begun data r _ _ _ _ he hl =>
    by_cases hq : Quits (.ok r)
    · exact .inl (afterMove_still hl hq now i hi)
    · have hsaid : m.Still (m.emit now .sessionStarted data) := .of_steps rfl
      rw [afterMove_waits now hq]
      exact .inl (hsaid.trans (he.still hpa) i hi)
  | @turned r _ _ ht hl =>
    by_cases hq : Quits r
    · exact .inl (afterMove_still hl hq now i hi)
    · simp only [afterMove_waits now hq, true_and]
      exact ht.still hpa hi
  | heard _ | closed _ _ | missed _ => exact .inl hi

theorem afterMove_asleep {r : Except Halt (Monitor × Next)} (hn : m.Loops r) (hl : Lands p c r) (now : Moment) {woken : Bool}
    (hph : (afterMove now r).phase = .parked i woken) : woken = false := by
  by_cases hq : Quits r
  · rw [(afterMove_quits now hl hq).1] at hph
    split at hph <;> cases hph
  · rw [afterMove_waits now hq] at hph
    exact ((hn.rests hq).2 i woken hph).1

theorem applyControl_woken {call : ControlCall} (hph : (m.applyControl call).phase = .parked i true) :
    m.phase = .parked i true ∨ m.phase = .parked i false ∧ (m.control.apply call).paused = false := by
  unfold applyControl at hph
  cases hphase : m.phase with
  | parked j woken =>
    simp only [hphase, Phase.parked.injEq, Bool.or_eq_true, Bool.not_eq_true'] at hph
    obtain ⟨rfl, hwoken⟩ := hph
    cases woken with
    | true => exact .inl rfl
    | false => exact .inr ⟨rfl, by simpa using hwoken⟩
  | _ => simp [hphase] at hph

/-- **Only the end of a pause wakes a run**, and a woken run stays so until its next turn. -/
theorem receive_woken (h : m.phase ≠ .finished → m.Inv p c) (hr : m.Rests) (now : Moment) {s : Signal}
    (hs : s.isOfRun = true) (hph : (m.receive now s).phase = .parked i true) : (m.phase = .parked i true ∧ s ≠ .turn) ∨
      (m.phase = .parked i false ∧ s.endsPause = true) := by
  have hreceives := receive_receives h now hs
  generalize m.receive now s = m' at hreceives hph
  cases hreceives with
  | called call =>
    rcases applyControl_woken hph with hw | ⟨hw, hpa⟩
    · exact .inl ⟨hw, by simp⟩
    · refine .inr ⟨hw, ?_⟩
      cases call with
      | pause => simp [Control.apply, Control.pause, (hr.asleep i hw).2] at hpa
      | resume | stop => rfl
  | halted =>
    rw [stopping_phase] at hph
    rcases applyControl_woken hph with hw | ⟨hw, _⟩
    · exact .inl ⟨hw, by simp⟩
    · exact .inr ⟨hw, rfl⟩
  | begun _ _ _ _ he hl => cases afterMove_asleep he.loops hl now hph
  | turned _ hi ht hl => cases afterMove_asleep (ht.loops hi) hl now hph
  | heard hh => exact absurd hph (hh.ne_parked i true)
  | closed _ _ => cases hph
  | missed hmiss =>
    refine .inl ⟨hph, ?_⟩
    rintro rfl
    simp [Misses, isReady, hph] at hmiss

/-- **The turn of a run that has been woken begins its step**, paused again or not. -/
theorem woken_turn (h : m.Inv p c) (hph : m.phase = .parked i true) (hst : m.control.stopped = false) (hi : m.Pends i)
    (now : Moment) : (m.receive now .turn).Runs i := by
  obtain ⟨pre, post, done, rest, hpost, hcut, hrest, _⟩ := h.cut
  obtain ⟨st, hst', _⟩ := hi
  have hlt : i < m.plan.steps.length := by
    rw [h.plan, ← (hcut.hasSettled hpost hrest).length]
    exact (List.getElem?_eq_some_iff.mp hst').1
  have hturn := takeTurn_turns h now
  simp only [receive]
  generalize m.takeTurn now = r at hturn
  cases hturn with
  | idle hi => simp [isReady, hph] at hi
  | unparked _ h => cases hst.symm.trans h
  | resumed h _ hj hat =>
    cases hph.symm.trans h
    subst hj
    exact attempting_runs ..
  | resumedPast h _ hnone =>
    cases hph.symm.trans h
    exact absurd (List.getElem?_eq_none_iff.mp hnone) (Nat.not_le.mpr hlt)
  | passed hs _ _ _ _ | unstored hs _ _ _ | lost hs _ _ | failed hs _ _ _ _ =>
    rcases hs with hs | ⟨_, hs⟩ <;> cases hph.symm.trans hs
  | graced h _ _ _ | cancelled h _ _ | deserted h _ _ _ _ | retried h _ _ _ => cases hph.symm.trans h

end

/-! ## Runs -/

theorem after_paused {c : Control} {s : Signal} (he : s.endsPause = false) (hpa : c.paused = true) :
    (c.after s).paused = true := by
  match s with
  | .control .pause =>
    simp only [Control.after, Control.apply, Control.pause]
    split
    · exact hpa
    · rfl
  | .control .resume | .control .stop | .stop => cases he
  | .start | .fail _ | .outcome _ | .timeUp | .turn | .closed => exact hpa

theorem after_stopped {c : Control} {s : Signal} (he : s.endsPause = false) : (c.after s).stopped = c.stopped := by
  have hstop : s.asksStop = false := by
    match s with
    | .control .resume | .control .stop | .stop => cases he
    | .control .pause | .start | .fail _ | .outcome _ | .timeUp | .turn | .closed => rfl
  rw [Control.after_stopped, hstop, Bool.or_false]

def LetsPause (signals : List (Moment × Signal)) : Prop := ∀ x ∈ signals, x.2.isOfRun = true ∧ x.2.endsPause = false

/-- A paused run that no one has woken, with a step that is idle. -/
structure Holds (p : Plan) (i : Nat) (m : Monitor) : Prop extends m.Reached p where
  paused : m.control.paused = true
  idle : m.Idle i
  asleep : ¬(m.control.stopped = false ∧ m.phase = .parked i true)

structure Woken (p : Plan) (i : Nat) (m : Monitor) : Prop extends m.Reached p where
  going : m.control.stopped = false
  pends : m.Pends i
  awake : m.phase = .parked i true

section
variable {m : Monitor} {p : Plan} {i : Nat}

theorem Holds.receive (h : m.Holds p i) (now : Moment) {s : Signal} (hs : s.isOfRun = true) (he : s.endsPause = false) :
    (m.receive now s).Holds p i := by
  have hcontrol := (receive_fixed h.inv h.plan rfl now hs).2
  have hreached := h.toReached.receive now hs
  refine ⟨hreached, ?_, ?_, ?_⟩
  · rw [hcontrol]
    exact after_paused he h.paused
  · rcases receive_still h.inv h.paused now hs h.idle with hidle | ⟨_, hphase, hst⟩
    · exact hidle
    · exact absurd ⟨hst, hphase⟩ h.asleep
  · rintro ⟨hst, hphase⟩
    rw [hcontrol, after_stopped he] at hst
    have hn : m.phase ≠ .finished := by
      intro hfin
      cases (receive_finished hfin now s).symm.trans hphase
    rcases receive_woken h.inv (h.atRest hn) now hs hphase with ⟨hawake, _⟩ | ⟨_, hends⟩
    · exact h.asleep ⟨hst, hawake⟩
    · exact absurd (he.symm.trans hends) nofun

theorem Holds.not_runs (h : m.Holds p i) {later : List (Moment × Signal)} (hl : LetsPause later) :
    ¬(m.receiveAll later).Runs i := by
  have hholds : (m.receiveAll later).Holds p i := by
    induction later using List.reverseRecOn with
    | nil => exact h
    | append_singleton later x ih =>
      have hx := hl x (by simp)
      rw [receiveAll_snoc]
      exact (ih fun y hy => hl y (by simp [hy])).receive x.1 hx.1 hx.2
  exact hholds.idle.not_runs

theorem Woken.receive (h : m.Woken p i) (now : Moment) {s : Signal} (hs : s.isOfRun = true) (he : s.endsPause = false)
    (hturn : s ≠ .turn) : (m.receive now s).Woken p i := by
  have hcontrol := (receive_fixed h.inv h.plan rfl now hs).2
  have hsame : (m.receive now s).session = m.session ∧ (m.receive now s).phase = .parked i true := by
    match s with
    | .control call =>
      refine ⟨rfl, ?_⟩
      simp only [Monitor.receive, applyControl, h.awake, Bool.true_or]
    | .stop => cases he
    | .turn => exact absurd rfl hturn
    | .start | .outcome _ | .timeUp | .closed =>
      simp only [Monitor.receive, h.awake]
      exact ⟨trivial, trivial⟩
  refine ⟨h.toReached.receive now hs, ?_, ?_, hsame.2⟩
  · rw [hcontrol, after_stopped he]
    exact h.going
  · unfold Pends
    rw [hsame.1]
    exact h.pends

/-- **A run that has been woken begins its step with its next turn.** -/
theorem Woken.runs (later : List (Moment × Signal)) : ∀ {m : Monitor}, m.Woken p i → LetsPause later →
    ((∃ l, l <+: later ∧ (m.receiveAll l).Runs i) ↔ ∃ x ∈ later, x.2 = .turn) := by
  induction later with
  | nil =>
    intro m h _
    refine ⟨?_, by simp⟩
    rintro ⟨l, hl, hr⟩
    rw [List.prefix_nil.mp hl] at hr
    exact absurd hr h.pends.idle.not_runs
  | cons x later ih =>
    intro m h hl
    have hx := hl x (by simp)
    have hinv := h.inv (by rw [h.awake]; nofun)
    by_cases hturn : x.2 = .turn
    · refine ⟨fun _ => ⟨x, by simp, hturn⟩, fun _ => ⟨[x], List.prefix_append [x] later, ?_⟩⟩
      rw [receiveAll_cons, hturn]
      exact woken_turn hinv h.awake h.going h.pends x.1
    · have hnext := ih (h.receive x.1 hx.1 hx.2 hturn) fun y hy => hl y (by simp [hy])
      constructor
      · rintro ⟨l, hpre, hr⟩
        cases l with
        | nil => exact absurd hr h.pends.idle.not_runs
        | cons y l =>
          obtain ⟨rfl, hrest⟩ := List.cons_prefix_cons.mp hpre
          rw [receiveAll_cons] at hr
          obtain ⟨z, hz, hzt⟩ := hnext.mp ⟨l, hrest, hr⟩
          exact ⟨z, by simp [hz], hzt⟩
      · rintro ⟨z, hz, hzt⟩
        rcases List.mem_cons.mp hz with rfl | hz
        · exact absurd hzt hturn
        · obtain ⟨l, hpre, hr⟩ := hnext.mpr ⟨z, hz, hzt⟩
          refine ⟨x :: l, List.cons_prefix_cons.mpr ⟨rfl, hpre⟩, ?_⟩
          rw [receiveAll_cons]
          exact hr

/-- **How a paused run comes to be awake**: a resume has woken it, and it has had no turn since. -/
theorem Reached.woken (h : m.Reached p) (signals : List (Moment × Signal)) (hs : ∀ x ∈ signals, x.2.isOfRun = true)
    (hm : ∀ i, m.phase ≠ .parked i true) (hphase : (m.receiveAll signals).phase = .parked i true)
    (hst : (m.receiveAll signals).control.stopped = false) :
    ∃ before t after, signals = before ++ (t, .control .resume) :: after ∧ (m.receiveAll before).phase = .parked i false ∧
      ∀ x ∈ after, x.2 ≠ .turn := by
  induction signals using List.reverseRecOn with
  | nil => exact absurd hphase (hm i)
  | append_singleton signals x ih =>
    have hs' : ∀ y ∈ signals, y.2.isOfRun = true := fun y hy => hs y (by simp [hy])
    have hx := hs x (by simp)
    have hreached := h.receiveAll signals hs'
    rw [receiveAll_snoc] at hphase hst
    rw [(receive_fixed hreached.inv hreached.plan rfl x.1 hx).2, Control.after_stopped, Bool.or_eq_false_iff] at hst
    have hn : (m.receiveAll signals).phase ≠ .finished := by
      intro hfin
      cases (receive_finished hfin x.1 x.2).symm.trans hphase
    rcases receive_woken hreached.inv (hreached.atRest hn) x.1 hx hphase with ⟨hawake, hturn⟩ | ⟨hpark, hends⟩
    · obtain ⟨before, t, after, hsplit, hpark, hnone⟩ := ih hs' hawake hst.1
      refine ⟨before, t, after ++ [x], by simp [hsplit], hpark, fun y hy => ?_⟩
      rcases List.mem_append.mp hy with hy | hy
      · exact hnone y hy
      · rw [List.mem_singleton.mp hy]
        exact hturn
    · obtain ⟨t, s⟩ := x
      match s, hends with
      | .control .resume, _ => exact ⟨signals, t, [], rfl, hpark, by simp⟩
      | .control .stop, _ | .stop, _ => cases hst.2

end

theorem paused_of_afterAll (signals : List (Moment × Signal)) : ∀ {c : Control}, c.paused = false →
    (c.afterAll signals).paused = true → ∃ x ∈ signals, x.2 = .control .pause := by
  induction signals with
  | nil => exact fun hc hpa => absurd (hc.symm.trans hpa) nofun
  | cons x signals ih =>
    intro c hc hpa
    by_cases hx : x.2 = .control .pause
    · exact ⟨x, by simp, hx⟩
    · have hafter : (c.after x.2).paused = false := by
        obtain ⟨t, s⟩ := x
        match s with
        | .control .pause => exact absurd rfl hx
        | .control .resume | .control .stop | .stop => rfl
        | .start | .fail _ | .outcome _ | .timeUp | .turn | .closed => exact hc
      obtain ⟨y, hy, hpause⟩ := ih hafter hpa
      exact ⟨y, by simp [hy], hpause⟩

/-- **A pause holds, unless a resume before it is still to be seen.** While a
paused run is neither resumed nor stopped, no step is begun but in one case: a
resume had woken the run in front of the step, the pause came before its next
turn, and it now gets that turn. -/
theorem pause_holds {now : Instant} {id taskName : String} {plan : Plan} {control : Control} {m : Monitor}
    (hm : create now id taskName plan control = .ok m) {signals : List (Moment × Signal)}
    (hs : ∀ x ∈ signals, x.2.isOfRun = true) (hpa : (m.receiveAll signals).control.paused = true)
    {later : List (Moment × Signal)} (hl : LetsPause later) {i : Nat} (hi : (m.receiveAll signals).Pends i) :
    let reached := m.receiveAll signals
    ((∃ l, l <+: later ∧ (reached.receiveAll l).Runs i) ↔
      reached.control.stopped = false ∧ reached.phase = .parked i true ∧ ∃ x ∈ later, x.2 = .turn) ∧
        (reached.control.stopped = false → reached.phase = .parked i true → ∃ before t after,
          signals = before ++ (t, .control .resume) :: after ∧ (m.receiveAll before).phase = .parked i false ∧
            (∀ x ∈ after, x.2 ≠ .turn) ∧ ∃ x ∈ after, x.2 = .control .pause) := by
  intro reached
  have hreached : reached.Reached plan := (create_reached hm).receiveAll signals hs
  refine ⟨?_, fun hst hphase => ?_⟩
  · by_cases hawake : reached.control.stopped = false ∧ reached.phase = .parked i true
    · rw [Woken.runs later ⟨hreached, hawake.1, hi, hawake.2⟩ hl]
      exact ⟨fun hturn => ⟨hawake.1, hawake.2, hturn⟩, fun h => h.2.2⟩
    · refine ⟨?_, fun ⟨hst, hphase, _⟩ => absurd ⟨hst, hphase⟩ hawake⟩
      rintro ⟨l, hpre, hr⟩
      have hlets : LetsPause l := fun x hx => hl x (hpre.subset hx)
      exact absurd hr (Holds.not_runs ⟨hreached, hpa, hi.idle, hawake⟩ hlets)
  · have hstart : ∀ j, m.phase ≠ .parked j true := by
      rw [create_eq hm]
      nofun
    obtain ⟨before, t, after, rfl, hpark, hturns⟩ := (create_reached hm).woken signals hs hstart hphase hst
    refine ⟨before, t, after, rfl, hpark, hturns, ?_⟩
    rw [(receiveAll_fixed hm _ hs).2, Control.afterAll, List.foldl_append, List.foldl_cons] at hpa
    exact paused_of_afterAll after rfl hpa

private def twoGates : Plan where
  steps := [⟨"east", 1, .click "#east", [], {}⟩, ⟨"west", 2, .click "#west", [], {}⟩]
  delay _ _ := .ok (.part (.ofNat 1))

private def midday : Moment := .ofSeconds (.ofNat 0)

private def freshGates : Monitor := { plan := twoGates, session := .ofSteps midday.wall "session" "task" twoGates.steps }

private def eastOnly : List (Moment × Signal) :=
  [.start, .control .pause, .outcome (.finished .nothing), .turn].map (midday, ·)

private def waitingWest : List (Moment × Signal) := [.turn, .timeUp, .control .pause, .turn].map (midday, ·)

theorem pause_holds_eastOnly : create midday.wall "session" "task" twoGates {} = .ok freshGates ∧
    (∀ x ∈ eastOnly, x.2.isOfRun = true) ∧ (freshGates.receiveAll eastOnly).control.paused = true ∧
      LetsPause waitingWest ∧ (freshGates.receiveAll eastOnly).Pends 1 ∧
        ∀ l, l <+: waitingWest → ¬((freshGates.receiveAll eastOnly).receiveAll l).Runs 1 := by
  have hcreate : create midday.wall "session" "task" twoGates {} = .ok freshGates := rfl
  have hrun : ∀ x ∈ eastOnly, x.2.isOfRun = true := by simp [eastOnly, Signal.isOfRun]
  have hpaused : (freshGates.receiveAll eastOnly).control.paused = true := by rfl
  have hlets : LetsPause waitingWest := by simp [LetsPause, waitingWest, Signal.isOfRun, Signal.endsPause]
  have hpends : (freshGates.receiveAll eastOnly).Pends 1 := ⟨StepStatus.ofStep ⟨"west", 2, .click "#west", [], {}⟩, rfl, rfl⟩
  have hphase : (freshGates.receiveAll eastOnly).phase = .parked 1 false := by rfl
  refine ⟨hcreate, hrun, hpaused, hlets, hpends, fun l hpre hr => ?_⟩
  obtain ⟨_, hawake, _⟩ := (pause_holds hcreate hrun hpaused hlets hpends).1.mp ⟨l, hpre, hr⟩
  rw [hphase] at hawake
  cases hawake

/-- Paused in front of the first step, resumed, and paused again at once. -/
private def pausedTwice : List (Moment × Signal) :=
  [.control .pause, .start, .control .resume, .control .pause].map (midday, ·)

/-- **A pause that follows a resume at once is lost** on the step that the run was woken for. -/
theorem pause_lost : create midday.wall "session" "task" twoGates {} = .ok freshGates ∧
    (∀ x ∈ pausedTwice, x.2.isOfRun = true) ∧ (freshGates.receiveAll pausedTwice).control = ⟨true, false⟩ ∧
      (freshGates.receiveAll pausedTwice).Pends 0 ∧
        ((freshGates.receiveAll pausedTwice).receive midday .turn).control = ⟨true, false⟩ ∧
          ((freshGates.receiveAll pausedTwice).receive midday .turn).Runs 0 := by
  have hcreate : create midday.wall "session" "task" twoGates {} = .ok freshGates := rfl
  have hrun : ∀ x ∈ pausedTwice, x.2.isOfRun = true := by simp [pausedTwice, Signal.isOfRun]
  have hcontrol : (freshGates.receiveAll pausedTwice).control = ⟨true, false⟩ := by rfl
  have hpends : (freshGates.receiveAll pausedTwice).Pends 0 := ⟨StepStatus.ofStep ⟨"east", 1, .click "#east", [], {}⟩, rfl, rfl⟩
  have hphase : (freshGates.receiveAll pausedTwice).phase = .parked 0 true := by rfl
  have hreached := (create_reached hcreate).receiveAll pausedTwice hrun
  have hopen : (freshGates.receiveAll pausedTwice).phase ≠ .finished := by simp [hphase]
  refine ⟨hcreate, hrun, hcontrol, hpends, ?_, ?_⟩
  · rw [(receive_fixed hreached.inv hreached.plan rfl midday (s := .turn) rfl).2, hcontrol]
    rfl
  · exact woken_turn (hreached.inv hopen) hphase (congrArg Control.stopped hcontrol) hpends midday

end Monitor

end BrowserPilot
