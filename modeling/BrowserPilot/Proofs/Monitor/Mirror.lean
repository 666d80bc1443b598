import BrowserPilot.Proofs.Event.Attribution
import BrowserPilot.Proofs.Monitor.Failing
import BrowserPilot.Proofs.Monitor.Performed

/-!
# What a late observer sees

The snapshot of a bus is a second copy of a session that is kept through events
alone. The events tell of every step that begins and of every step that is
settled, so that the copy follows the session wherever there is something to
tell. It begins with what earlier sessions have left on the bus.
-/

namespace BrowserPilot

/-! ## Records that have begun -/

namespace Session

def marks (s : Session) : List (String × Bool) := s.steps.map fun st => (st.stepId, st.startedAt.isSome)

def begun (s : Session) : List String := (s.steps.filter (·.startedAt.isSome)).map (·.stepId)

def settledSteps (s : Session) : Nat := s.completedSteps + s.failedSteps

theorem begun_eq (s : Session) : s.begun = (s.marks.filter (·.2)).map (·.1) := by
  rw [begun, marks, List.filter_map, List.map_map]
  rfl

theorem filter_ofStep (steps : List Step) : (steps.map StepStatus.ofStep).filter (·.startedAt.isSome) = [] := by
  apply List.filter_eq_nil_iff.mpr
  intro st hst
  obtain ⟨step, -, rfl⟩ := List.mem_map.mp hst
  simp [StepStatus.ofStep]

theorem marks_at {s : Session} {done rest : List StepStatus} {st : StepStatus} (h : s.steps = done ++ st :: rest) :
    s.marks[done.length]? = some (st.stepId, st.startedAt.isSome) := by
  simp [marks, h]

theorem Cut.total_ne {s : Session} {pre post : List Step} {done rest : List StepStatus} (h : s.Cut pre post done rest)
    (hrest : rest ≠ []) : s.totalSteps ≠ 0 := by
  have hlen := List.length_pos_iff.mpr hrest
  rw [h.total, h.unsettled.length_eq]
  omega

end Session

namespace Monitor

/-! ## Events follow the session -/

def progressOf (settled total : Nat) : Json.Members := [("progress", .num (Binary64.percentage settled total))]

/-- What has been told of a session is what the session shows. -/
structure Mirrors (m : Monitor) : Prop where
  started : (said .stepStarted m.events).map (Json.get? · "step_id") = m.session.begun.map fun id => some (.str id)
  progress : (said .progress m.events).getLast? =
    if m.session.settledSteps = 0 then none else some (progressOf m.session.settledSteps m.session.totalSteps)
  current : ∀ a, m.phase.current? = some a → ∀ x, m.session.marks[a.index]? = some x → x.2 = true

section
variable {m m' : Monitor} {now : Moment} {step : Step} {post : List Step} {done rest : List StepStatus} {st st' : StepStatus}

/-- What tells of no step and of no progress, and changes no record, is not to be seen. -/
theorem Mirrors.congr (h : m.Mirrors) (hs : m'.session.marks = m.session.marks)
    (hn : m'.session.settledSteps = m.session.settledSteps) (ht : m'.session.totalSteps = m.session.totalSteps)
    (he : ∀ k, k = .stepStarted ∨ k = .progress → said k m'.events = said k m.events)
    (hc : ∀ a, m'.phase.current? = some a → m.phase.current? = some a) : m'.Mirrors where
  started := by
    rw [he _ (.inl rfl), h.started, Session.begun_eq, Session.begun_eq, hs]
  progress := by
    rw [he _ (.inr rfl), h.progress, hn, ht]
  current a ha x hx := h.current a (hc a ha) x (hs ▸ hx)

theorem said_other {k : EventKind} {es es' : List Emission} (h : k ∉ es'.map (·.kind)) : said k (es ++ es') = said k es := by
  rw [said_append, said_eq_nil h, List.append_nil]

theorem Mirrors.inPhase (h : m.Mirrors) {ph : Phase} (hc : ∀ a, ph.current? = some a → m.phase.current? = some a) :
    { m with phase := ph }.Mirrors :=
  h.congr rfl rfl rfl (fun _ _ => rfl) hc

theorem Mirrors.emit (h : m.Mirrors) {k : EventKind} (hk : k ≠ .stepStarted ∧ k ≠ .progress) (now : Moment)
    (data : Json.Members) : (m.emit now k data).Mirrors := by
  refine h.congr rfl rfl rfl ?_ fun a ha => ha
  intro k' hk'
  apply said_other
  rcases hk' with rfl | rfl
  · simpa [eq_comm] using hk.1
  · simpa [eq_comm] using hk.2

theorem Mirrors.inState (h : m.Mirrors) (state : SessionState) (endedAt : Option Instant) :
    { m with session := { m.session with state, endedAt } }.Mirrors :=
  h.congr rfl rfl rfl (fun _ _ => rfl) fun _ ha => ha

theorem Mirrors.stopping (h : m.Mirrors) (now : Moment) : (m.stopping now).Mirrors := by
  unfold Monitor.stopping
  split
  · exact h
  · exact h.inState _ _

theorem Mirrors.settling (h : m.Mirrors) (hs : m.session.steps = done ++ st :: rest) (st' : StepStatus)
    (hid : st'.stepId = st.stepId) (hstarted : st'.startedAt = st.startedAt) (ht : m.session.totalSteps ≠ 0) (now : Moment) :
    (m.settling now done st' rest).Mirrors := by
  have hmarks : (m.settling now done st' rest).session.marks = m.session.marks := by
    simp [Session.marks, hs, StepStatus.closed, hid, hstarted]
  have hcount : (m.settling now done st' rest).session.settledSteps ≠ 0 := by
    rw [Session.settledSteps, settling_session]
    by_cases hfailed : st'.state = .failed <;> simp [hfailed]
  have htotal : (m.settling now done st' rest).session.totalSteps = m.session.totalSteps := by rw [settling_session]
  have hprogress : said .progress (m.settling now done st' rest).events =
      said .progress m.events ++ [[("progress", .num (m.settling now done st' rest).session.progress)]] := said_append ..
  constructor
  · rw [said_started_settling, h.started, Session.begun_eq, Session.begun_eq, hmarks]
  · rw [hprogress, List.getLast?_concat, if_neg hcount, Session.progress_eq (by rwa [htotal])]
    rfl
  · intro a ha x hx
    exact h.current a ha x (hmarks ▸ hx)

theorem Mirrors.begins (h : m.Mirrors) (hs : m.session.steps = done ++ StepStatus.ofStep step :: post.map StepStatus.ofStep)
    (now : Moment) :
    (m.attempting now step 1 done (StepStatus.ofStep step) (post.map StepStatus.ofStep)).Mirrors := by
  let m' := m.attempting now step 1 done (StepStatus.ofStep step) (post.map StepStatus.ofStep)
  have hidle := Session.filter_ofStep post
  have hsteps : m'.session.steps = done ++ (StepStatus.ofStep step).begun now.wall 1
      (attemptLine 1 (1 + step.policy.retries) (step.attempt 1).2) :: post.map StepStatus.ofStep := rfl
  have hbegun : m'.session.begun = m.session.begun ++ [step.id] := by
    rw [Session.begun, Session.begun, hs, hsteps]
    simp [List.filter_append, hidle, StepStatus.begun, StepStatus.started, StepStatus.logged, StepStatus.counted,
      StepStatus.ofStep]
  have htold : said .stepStarted m'.events = said .stepStarted m.events ++ [startedData step] := said_append ..
  constructor
  · rw [htold, hbegun, List.map_append, List.map_append, h.started]
    rfl
  · have hprogress : said .progress m'.events = said .progress m.events := said_other (by simp)
    rw [hprogress, h.progress]
    rfl
  · intro a ha x hx
    obtain rfl : _ = a := Option.some.inj ha
    rw [Session.marks_at hsteps] at hx
    obtain rfl := Option.some.inj hx
    rfl

theorem Mirrors.tries (h : m.Mirrors) (hs : m.session.steps = done ++ st :: rest) (hstarted : st.startedAt.isSome = true)
    {number : Nat} (hn : number ≠ 1) (now : Moment) : (m.attempting now step number done st rest).Mirrors := by
  have hmarks : (m.attempting now step number done st rest).session.marks = m.session.marks := by
    simp [Session.marks, hs, attempting, withSteps, StepStatus.begun, StepStatus.counted, StepStatus.started,
      StepStatus.logged, hn, hstarted]
  have hevents : (m.attempting now step number done st rest).events = m.events := by
    simp [attempting, hn, withSteps]
  constructor
  · rw [hevents, h.started, Session.begun_eq, Session.begun_eq, hmarks]
  · rw [hevents, h.progress]
    rfl
  · intro a ha x hx
    obtain rfl : _ = a := Option.some.inj ha
    rw [hmarks, Session.marks_at hs] at hx
    obtain rfl := Option.some.inj hx
    exact hstarted

/-! ## Moves -/

theorem At.total_ne (h : m.At step post done st) : m.session.totalSteps ≠ 0 := by
  obtain ⟨pre, -, hcut⟩ := h
  exact hcut.total_ne (by simp)

theorem Enters.mirrors {r : Monitor × Next} (h : Enters now m done post r) (hb : m.Before post done) (hm : m.Mirrors) :
    r.1.Mirrors := by
  obtain ⟨pre, -, hcut⟩ := hb
  cases h with
  | past => exact hm
  | stopped _ => exact hm.stopping now
  | paused _ _ =>
    exact ((hm.inState .paused m.session.endedAt).emit (by simp) now _).inPhase fun a ha => by cases ha
  | begun _ _ => exact hm.begins hcut.steps now

theorem Advances.mirrors {r : Monitor × Next} (h : Advances now m post done st' r) (hat : m.At step post done st)
    (hid : st'.stepId = st.stepId) (hstarted : st'.startedAt = st.startedAt) (hm : m.Mirrors) : r.1.Mirrors :=
  h.enters.mirrors h.before (hm.settling hat.steps _ hid hstarted hat.total_ne now)

theorem GivesUp.mirrors {r : Monitor × Next} (h : GivesUp now m post done st r) (hat : m.At step post done st)
    (hm : m.Mirrors) : r.1.Mirrors := by
  cases h with
  | aborts _ => exact hm.settling hat.steps st rfl rfl hat.total_ne now
  | goesOn _ h => exact h.mirrors hat rfl rfl hm

theorem Fails.mirrors {a : Attempt} {e : StepFault} {r : Except Halt (Monitor × Next)} (h : Fails now m a step post done st e r)
    (hat : m.At step post done st) (ha : m.phase.current? = some a) (hm : m.Mirrors) : (leftBy r).Mirrors := by
  have hfailing : (m.failing done st (post.map StepStatus.ofStep) a e).Mirrors := by
    refine hm.congr ?_ rfl rfl (fun _ _ => rfl) fun _ ha => ha
    simp [Session.marks, hat.steps, failing, withSteps, StepStatus.faulted, StepStatus.withError, StepStatus.logged,
      StepStatus.inState]
  cases h with
  | skipped _ h => exact h.mirrors hat rfl rfl hm
  | retrying _ _ _ _ =>
    refine hfailing.congr rfl rfl rfl (fun k hk => said_other ?_) fun b hb => ha.trans hb
    rcases hk with rfl | rfl <;> simp
  | undelayed _ _ _ _ => exact hfailing
  | exhausted _ _ h => exact h.mirrors (hat.failing a e) hfailing

/-- **A turn tells** of the steps that it begins and of the progress that it makes. -/
theorem Turns.mirrors {r : Except Halt (Monitor × Next)} (h : Turns now m r) (hm : m.Mirrors) : (leftBy r).Mirrors := by
  cases h with
  | idle _ | unstored _ _ _ _ | lost _ _ _ => exact hm
  | unparked _ _ => exact hm.stopping now
  | resumed _ _ _ hat =>
    have hresuming : (m.resuming now).Mirrors := (hm.inState .running m.session.endedAt).emit (by simp) now _
    exact hresuming.begins hat.steps now
  | resumedPast _ _ _ => exact (hm.inState .running m.session.endedAt).emit (by simp) now _
  | @passed a step post done st st' o r _ ht _ ho hn =>
    have hstored := StepStatus.store_ok ho
    have hid := congrArg StepStatus.stepId hstored
    have hstarted := congrArg StepStatus.startedAt hstored
    exact hn.mirrors ht.here hid hstarted hm
  | failed hs _ ht _ hn => exact hn.mirrors ht.here hs.current? hm
  | @graced a step post done st hph _ _ _ =>
    have hgrace := (hm.stopping now).emit (k := .sessionStopping) (by simp) now [("grace_sec", .amount m.plan.grace)]
    refine hgrace.congr rfl rfl rfl (fun _ _ => rfl) fun b hb => ?_
    have hphase : ((m.stopping now).emit now .sessionStopping [("grace_sec", .amount m.plan.grace)]).phase = m.phase :=
      stopping_phase now m
    rw [hphase, hph]
    exact hb
  | cancelled _ ht _ => exact hm.settling ht.here.steps (StepStatus.faulted ..) rfl rfl ht.here.total_ne now
  | deserted _ _ ht _ hn => exact hn.mirrors (ht.here.stopping now) (hm.stopping now)
  | @retried a step post done st hph _ ht _ =>
    have hnumber := ht.number
    have hmark := hm.current a (by rw [hph]; rfl) _ (ht.index ▸ Session.marks_at ht.here.steps)
    exact hm.tries ht.here.steps hmark (by omega) now

/-! ## The end of a run -/

theorem Mirrors.winding (reason : String) (now : Moment) (rest : List StepStatus) : ∀ {m : Monitor} {done : List StepStatus},
    m.Mirrors → m.session.steps = done ++ rest → (rest ≠ [] → m.session.totalSteps ≠ 0) →
      (m.winding now reason done rest).Mirrors := by
  induction rest with
  | nil => exact fun h _ _ => h
  | cons st rest ih =>
    intro m done h hs ht
    have htotal := ht (by simp)
    apply ih (h.settling hs (st.faulted .failed (st.errorOr reason) reason) rfl rfl htotal now)
    · simp [StepStatus.abandoned]
    · rw [settling_session]
      exact fun _ => htotal

section
variable {p : Plan} {c : Control} {pre post : List Step}

theorem Mirrors.ending (h : m.Mirrors) (hcut : m.session.Cut pre post done rest) (now : Moment) :
    (m.ending now done rest).Mirrors := by
  let m₀ : Monitor := { m with isFinished := true }
  have hm₀ : m₀.Mirrors := h.congr rfl rfl rfl (fun _ _ => rfl) fun _ ha => ha
  have hwound : (m₀.winding now notExecuted done rest).Mirrors := hm₀.winding notExecuted now rest hcut.steps hcut.total_ne
  have hconcluded : ((m₀.winding now notExecuted done rest).concluding now).Mirrors := by
    unfold concluding
    split
    · exact hwound
    · exact hwound.inState _ _
  unfold Monitor.ending
  simp only
  split
  · exact hconcluded.congr rfl rfl rfl (fun _ _ => rfl) fun a ha => by cases ha
  · exact (hconcluded.emit (by simp) now _).inPhase fun a ha => by cases ha

/-- A run that is over has settled all its steps, and its last event tells of its end. -/
def Ends (p : Plan) (m : Monitor) : Prop :=
  m.phase = .finished → m.session.isTerminal = true ∧ m.session.totalSteps = p.steps.length ∧
    m.session.settledSteps = p.steps.length ∧ ∃ es t, m.events = es ++ [⟨t, .sessionFinished, finishedData m.session⟩]

theorem Ends.of_isOver {b : Bool} (h : m.session.IsOver p b)
    (he : ∃ es t, m.events = es ++ [⟨t, .sessionFinished, finishedData m.session⟩]) : m.Ends p := by
  intro _
  have htotal : m.session.totalSteps = p.steps.length := h.cut.total
  exact ⟨h.isTerminal, htotal, h.isSettled.total.trans htotal, he⟩

theorem Leaves.ends (h : m.Leaves p c) (hp : p.steps = pre ++ post) (hcut : m.session.Cut pre post done rest) (now : Moment) :
    (m.ending now done rest).Ends p := by
  have hinv := ending_inv now h hp hcut
  intro hph
  have hover := hinv.phase
  rw [hph] at hover
  apply Ends.of_isOver hover ?_ hph
  unfold ending at hph ⊢
  simp only at hph ⊢
  split at hph
  · cases hph
  · rename_i hst
    rw [if_neg hst]
    exact ⟨_, now, rfl⟩

theorem Leaves.wound (h : m.Leaves p c) (hp : p.steps = pre ++ post) (hcut : m.session.Cut pre post done rest) (now : Moment)
    (reason : String) : (m.winding now reason done rest).Leaves p c := by
  have hw := winding_eq now reason rest done m hcut.steps
  refine ⟨(congrArg Monitor.plan hw).trans h.plan, (congrArg Monitor.control hw).trans h.control, ?_, p.steps, [], _, [],
    by simp, hp ▸ hcut.winding now reason⟩
  rw [hw]
  exact h.stands

/-- What is left to fail, after a fault or from outside, is told of as it is failed. -/
theorem Leaves.failed (h : m.Leaves p c) (hm : m.Mirrors) (now : Moment) (reason : String) :
    (orRaised ((failRemaining now reason m).bind (finish now))).Inv p c ∧
      (orRaised ((failRemaining now reason m).bind (finish now))).Mirrors ∧
        (orRaised ((failRemaining now reason m).bind (finish now))).Ends p := by
  obtain ⟨pre, post, done, rest, hp, hcut⟩ := h.split
  have hwound := h.wound hp hcut now reason
  have hcut' := hp ▸ Session.Cut.winding (m := m) now reason hcut
  have hp' : p.steps = p.steps ++ [] := (List.append_nil _).symm
  rw [failRemaining_finish now reason hcut]
  exact ⟨ending_inv now hwound hp' hcut', (hm.winding reason now rest hcut.steps hcut.total_ne).ending hcut' now,
    hwound.ends hp' hcut' now⟩

/-- What holds of a monitor while it runs and beyond. -/
structure Observed (p : Plan) (m : Monitor) : Prop where
  inv : m.phase ≠ .finished → m.Inv p m.control
  mirrors : m.Mirrors
  ends : m.Ends p

theorem Observed.of_inv (hinv : m.Inv p c) (hm : m.Mirrors) (he : m.Ends p) : m.Observed p :=
  ⟨fun _ => hinv.control ▸ hinv, hm, he⟩

theorem Loops.ne_finished {r : Except Halt (Monitor × Next)} (hn : m.Loops r) (hq : ¬Quits r) :
    (leftBy r).phase ≠ .finished := by
  have hnone := (hn.rests hq).1
  intro hf
  rw [hf] at hnone
  cases hnone

theorem Observed.afterMove {r : Except Halt (Monitor × Next)} (hm : (leftBy r).Mirrors) (hl : Lands p c r)
    (hn : m.Loops r) (now : Moment) : (afterMove now r).Observed p := by
  apply Observed.of_inv (afterMove_inv now hl)
  · match r, hl with
    | .ok (m, .wait), _ => exact hm
    | .ok (m, .leave), hl =>
      obtain ⟨pre, post, done, rest, -, hcut⟩ := hl.split
      simp only [Monitor.afterMove, finish_eq hcut.steps hcut.terminal hcut.pending, orRaised]
      exact Mirrors.ending hm hcut now
    | .error ⟨m, f⟩, hl =>
      have hleaves : (m.emit now .error [("error", .str f.message)]).Leaves p c := ⟨hl.plan, hl.control, hl.stands, hl.split⟩
      exact (hleaves.failed (Mirrors.emit hm (by simp) now _) now (reasonOf f)).2.1
  · match r, hl with
    | .ok (m, .wait), _ => exact fun hph => absurd hph (hn.ne_finished id)
    | .ok (m, .leave), hl =>
      obtain ⟨pre, post, done, rest, hp, hcut⟩ := hl.split
      simp only [Monitor.afterMove, finish_eq hcut.steps hcut.terminal hcut.pending, orRaised]
      exact Leaves.ends hl hp hcut now
    | .error ⟨m, f⟩, hl =>
      have hleaves : (m.emit now .error [("error", .str f.message)]).Leaves p c := ⟨hl.plan, hl.control, hl.stands, hl.split⟩
      exact (hleaves.failed (Mirrors.emit hm (by simp) now _) now (reasonOf f)).2.2

theorem Observed.over (h : m.Observed p) (hph : m.phase = .finished) (hs : m'.session = m.session)
    (he : m'.events = m.events) (hph' : m'.phase = .finished) : m'.Observed p := by
  refine ⟨fun hn => absurd hph' hn, ?_, fun _ => ?_⟩
  · refine h.mirrors.congr (by rw [hs]) (by rw [hs]) (by rw [hs]) (fun _ _ => by rw [he]) fun a ha => ?_
    rw [hph'] at ha
    cases ha
  · rw [hs, he]
    exact h.ends hph

/-! ## Signals and runs -/

theorem Observed.receive_over (h : m.Observed p) (hph : m.phase = .finished) (now : Moment) (s : Signal) :
    (m.receive now s).Observed p := by
  have hterm := (h.ends hph).1
  obtain ⟨hs, hph'⟩ := Monitor.receive_over hterm hph now s
  refine h.over hph hs ?_ hph'
  match s with
  | .control call => rfl
  | .stop =>
    have hterm' : (m.applyControl .stop).session.isTerminal = true := hterm
    rw [receive_stop, Monitor.stopping, if_pos hterm']
    rfl
  | .turn => simp only [receive, takeTurn, hph, Monitor.afterMove]
  | .start | .fail _ | .outcome _ | .timeUp | .closed => simp only [receive, hph]

theorem Observed.applyControl (h : m.Observed p) (hn : m.phase ≠ .finished) (call : ControlCall) :
    (m.applyControl call).Observed p ∧ (m.applyControl call).phase ≠ .finished := by
  have hopen : (m.applyControl call).phase ≠ .finished := by
    rcases applyControl_phase m call with hph | ⟨i, woken, woken', -, hph⟩
    · rwa [hph]
    · rw [hph]
      exact nofun
  refine ⟨.of_inv (applyControl_inv (h.inv hn) hn call) ?_ fun hf => absurd hf hopen, hopen⟩
  refine h.mirrors.congr rfl rfl rfl (fun _ _ => rfl) fun a ha => ?_
  rwa [applyControl_ofPhase Phase.current? (fun _ _ _ => rfl)] at ha

theorem Observed.halted (h : m.Observed p) (hn : m.phase ≠ .finished) (now : Moment) :
    ((m.applyControl .stop).stopping now).Observed p := by
  obtain ⟨hstop, hopen⟩ := h.applyControl hn .stop
  apply Observed.of_inv (stopping_inv now (hstop.inv hopen) hopen rfl) (hstop.mirrors.stopping now)
  intro hf
  rw [stopping_phase] at hf
  exact absurd hf hopen

theorem Observed.receive_fail (h : m.Observed p) (hready : m.phase = .ready) (now : Moment) (reason : String) :
    (m.receive now (.fail reason)).Observed p := by
  have hinv := h.inv (by rw [hready]; exact nofun)
  have hphase := hinv.phase
  rw [hready] at hphase
  obtain ⟨hf, hs, hcut⟩ := hphase
  have hleaves : (m.emit now .error [("error", .str reason)]).Leaves p m.control :=
    ⟨hinv.plan, rfl, hs, [], p.steps, [], _, rfl, hcut⟩
  obtain ⟨hinv', hmirrors, hends⟩ := hleaves.failed (h.mirrors.emit (by simp) now _) now reason
  simp only [receive, hready, hf, Bool.false_eq_true, if_false]
  exact .of_inv hinv' hmirrors hends

theorem Observed.receive_ofRun (h : m.Observed p) (hn : m.phase ≠ .finished) (now : Moment) {s : Signal}
    (hs : s.isOfRun = true) : (m.receive now s).Observed p := by
  have hinv := receive_inv now (h.inv hn) hn hs
  have hreceives := receive_receives h.inv now hs
  generalize m.receive now s = m' at hinv hreceives
  cases hreceives with
  | called call => exact (h.applyControl hn call).1
  | halted => exact h.halted hn now
  | begun _ _ _ hb he hl => exact .afterMove (r := .ok _) (he.mirrors hb (h.mirrors.emit (by simp) now _)) hl he.loops now
  | turned _ hi ht hl => exact .afterMove (ht.mirrors h.mirrors) hl (ht.loops hi) now
  | heard hh =>
    exact .of_inv hinv (h.mirrors.inPhase fun _ ha => hh.current? ▸ ha) fun hf => absurd hf hh.ne_finished
  | closed hopen hclosing =>
    have hover := hopen.phase
    rw [hclosing] at hover
    refine .of_inv hinv ?_ (Ends.of_isOver (m := m.announceEnd now) hover.2 ⟨_, now, rfl⟩)
    exact (h.mirrors.emit (by simp) now _).inPhase fun a ha => by cases ha
  | missed _ => exact h

theorem Observed.receive_open (h : m.Observed p) (hn : m.phase ≠ .finished) (now : Moment) (s : Signal) :
    (m.receive now s).Observed p := by
  cases s with
  | fail reason =>
    cases hphase : m.phase with
    | ready => exact h.receive_fail hphase now reason
    | _ => simpa only [receive, hphase] using h
  | _ => exact h.receive_ofRun hn now rfl

theorem create_observed {start : Instant} {id taskName : String} (hm : create start id taskName p c = .ok m) :
    m.Observed p := by
  apply Observed.of_inv (create_inv hm)
  · rw [create_eq hm]
    refine ⟨?_, rfl, fun a ha => by cases ha⟩
    simp [Session.begun, Session.ofSteps, Session.filter_ofStep, said]
  · rw [create_eq hm]
    intro hf
    cases hf

theorem Observed.receiveAll (signals : List (Moment × Signal)) : ∀ {m : Monitor}, m.Observed p →
    (m.receiveAll signals).Observed p := by
  induction signals with
  | nil => exact fun h => h
  | cons x signals ih =>
    intro m h
    apply ih
    by_cases hph : m.phase = .finished
    · exact h.receive_over hph x.1 x.2
    · exact h.receive_open hph x.1 x.2

end

end

end Monitor

/-! ## The snapshot -/

theorem Snapshot.update_frame {now : Binary64} {k : EventKind} {data : Json.Members} {s s' : Snapshot}
    (h : s.update now k data = .ok s') : (k ≠ .stepStarted → s'.stepId = s.stepId) ∧ (k ≠ .progress → s'.progress = s.progress) := by
  cases k with
  | stepStarted =>
    cases h
    exact ⟨fun hk => absurd rfl hk, fun _ => rfl⟩
  | progress =>
    refine ⟨fun _ => ?_, fun hk => absurd rfl hk⟩
    simp only [update] at h
    cases hp : Json.get? data "progress" with
    | none =>
      simp only [hp] at h
      cases h
      rfl
    | some v =>
      simp only [hp] at h
      cases hv : progressOf v with
      | error f => simp [hv, Except.map] at h
      | ok x =>
        simp only [hv, Except.map, Except.ok.injEq] at h
        rw [← h]
  | _ =>
    cases h
    exact ⟨fun _ => rfl, fun _ => rfl⟩

namespace Bus

theorem hear_frame (b : Bus) (e : Emission) :
    (e.kind ≠ .stepStarted → (b.hear e).snapshot.stepId = b.snapshot.stepId) ∧
      (e.kind ≠ .progress → (b.hear e).snapshot.progress = b.snapshot.progress) := by
  unfold hear emit
  cases hs : b.snapshot.update e.at_.seconds e.kind e.data with
  | error f => exact ⟨fun _ => rfl, fun _ => rfl⟩
  | ok s => exact Snapshot.update_frame hs

/-- What only the events of one kind change is as the last of them has left it. -/
theorem foldl_hear {β : Type} {k : EventKind} (f : Bus → β) (hf : ∀ (b : Bus) (e : Emission), e.kind ≠ k → f (b.hear e) = f b)
    (es : List Emission) (b : Bus) :
    (said k es = [] → f (es.foldl hear b) = f b) ∧
      ∀ data, (said k es).getLast? = some data → ∃ (b' : Bus) (e : Emission), e.kind = k ∧ e.data = data ∧ f (es.foldl hear b) = f (b'.hear e) := by
  induction es using List.reverseRecOn with
  | nil => exact ⟨fun _ => rfl, nofun⟩
  | append_singleton es e ih =>
    rw [List.foldl_append, List.foldl_cons, List.foldl_nil, said_append]
    by_cases hk : e.kind = k
    · have hone : said k [e] = [e.data] := by simp [said, hk]
      rw [hone, List.getLast?_concat]
      refine ⟨fun hnil => by simp at hnil, fun data hdata => ⟨es.foldl hear b, e, hk, Option.some.inj hdata, rfl⟩⟩
    · have hnone : said k [e] = [] := by simp [said, hk]
      rw [hnone, List.append_nil, hf _ e hk]
      exact ih

theorem hear_started (b : Bus) {e : Emission} {data : Json} (hk : e.kind = .stepStarted)
    (hd : Json.get? e.data "step_id" = some data) : (b.hear e).snapshot.stepId = data := by
  simp [hear, emit, hk, Snapshot.update, Except.map, hd]

theorem hear_progress (b : Bus) {e : Emission} {x : Binary64} (hk : e.kind = .progress)
    (hd : e.data = [("progress", .num x)]) : (b.hear e).snapshot.progress = x := by
  simp [hear, emit, hk, hd, Snapshot.update, Snapshot.progressOf, Json.get?, Except.map]

theorem hear_finished (b : Bus) (t : Moment) (s : Session) :
    (b.hear ⟨t, .sessionFinished, Monitor.finishedData s⟩).snapshot.state = .str s.state.name := by
  simp [hear, emit, Snapshot.update, Monitor.finishedData, Json.get?, Except.map]

theorem attach_snapshot (b : Bus) (m : Monitor) : (b.attach m).snapshot = b.snapshot := by
  unfold attach
  split <;> rfl

section
variable {p : Plan} {ended : Monitor}

theorem hearAll_state (h : ended.Observed p) (hend : ended.phase = .finished) (b : Bus) :
    (b.hearAll ended).snapshot.state = .str ended.session.state.name := by
  obtain ⟨-, -, -, es, t, hevents⟩ := h.ends hend
  rw [hearAll, hevents, List.foldl_append]
  exact hear_finished _ t ended.session

theorem hearAll_progress (h : ended.Observed p) (hend : ended.phase = .finished) (b : Bus) :
    (b.hearAll ended).snapshot.progress = ended.session.progress ↔ p.steps ≠ [] ∨ b.snapshot.progress = .ofNat 100 := by
  obtain ⟨hterm, htotal, hsettled, -⟩ := h.ends hend
  obtain ⟨hnone, hlast⟩ := foldl_hear (·.snapshot.progress) (fun b e => (b.hear_frame e).2) ended.events (b.attach ended)
  have hprogress := h.mirrors.progress
  rw [hsettled, htotal] at hprogress
  by_cases hsteps : p.steps = []
  · have hkept : (b.hearAll ended).snapshot.progress = b.snapshot.progress := by
      rw [← b.attach_snapshot ended]
      apply hnone
      simpa [hsteps] using hprogress
    have hundred : ended.session.progress = .ofNat 100 := by
      rw [Session.progress, if_pos (by simp [htotal, hsteps]), hterm]
      rfl
    rw [hkept, hundred]
    simp [hsteps]
  · rw [if_neg (by simpa using hsteps)] at hprogress
    obtain ⟨b', e, hk, hd, heq⟩ := hlast _ hprogress
    have htold : (b.hearAll ended).snapshot.progress = ended.session.progress := by
      have hne : ended.session.totalSteps ≠ 0 := by simpa [htotal] using hsteps
      rw [Session.progress_eq hne, htotal]
      exact heq.trans ((b'.hear_progress hk hd).trans (congrArg (Binary64.percentage · p.steps.length) hsettled.symm))
    exact iff_of_true htold (.inl hsteps)

theorem hearAll_stepId (h : ended.Observed p) (b : Bus) :
    (b.hearAll ended).snapshot.stepId = .str (ended.session.begun.getLast?.getD "") ↔
      ended.session.begun ≠ [] ∨ b.snapshot.stepId = .str "" := by
  obtain ⟨hnone, hlast⟩ := foldl_hear (·.snapshot.stepId) (fun b e => (b.hear_frame e).1) ended.events (b.attach ended)
  have hstarted := h.mirrors.started
  cases hbegun : ended.session.begun.getLast? with
  | none =>
    have hnil : ended.session.begun = [] := List.getLast?_eq_none_iff.mp hbegun
    have hkept : (b.hearAll ended).snapshot.stepId = b.snapshot.stepId := by
      rw [← b.attach_snapshot ended]
      apply hnone
      simpa [hnil] using hstarted
    rw [hkept]
    simp [hnil]
  | some last =>
    have hne : ended.session.begun ≠ [] := fun hnil => by simp [hnil] at hbegun
    have hlasts := congrArg List.getLast? hstarted
    rw [List.getLast?_map, List.getLast?_map, hbegun] at hlasts
    obtain ⟨data, hdata, hid⟩ := Option.map_eq_some_iff.mp hlasts
    obtain ⟨b', e, hk, rfl, heq⟩ := hlast data hdata
    exact iff_of_true (heq.trans (b'.hear_started hk hid)) (.inl hne)

end

/-- **What a late observer sees** of a run that is over, on a bus that may have
been used before. The state is that of the session. The progress is, if there
are any steps or the bus has been left at a hundred per cent, and the step is
the last that has begun, if one has or the bus has been left at none. -/
theorem snapshot_agrees_iff {start : Instant} {id taskName : String} {p : Plan} {c : Control} {m : Monitor}
    (hm : Monitor.create start id taskName p c = .ok m) (signals : List (Moment × Signal))
    (hend : (m.receiveAll signals).phase = .finished) (b : Bus) :
    (b.hearAll (m.receiveAll signals)).snapshot.state = .str (m.receiveAll signals).session.state.name ∧
      ((b.hearAll (m.receiveAll signals)).snapshot.progress = (m.receiveAll signals).session.progress ↔
        p.steps ≠ [] ∨ b.snapshot.progress = .ofNat 100) ∧
      ((b.hearAll (m.receiveAll signals)).snapshot.stepId =
          .str ((m.receiveAll signals).session.begun.getLast?.getD "") ↔
        (m.receiveAll signals).session.begun ≠ [] ∨ b.snapshot.stepId = .str "") := by
  have hobserved := (Monitor.create_observed hm).receiveAll signals
  exact ⟨hearAll_state hobserved hend b, hearAll_progress hobserved hend b, hearAll_stepId hobserved b⟩

private def noon : Moment := .ofSeconds (.ofNat 43200)

private def oneClick : Plan where
  steps := [⟨"step-2", 1, .click "#buy", [], ⟨false, 1⟩⟩]
  delay _ _ := .ok (.part (.ofNat 1))

private def quietRun (plan : Plan) : Monitor :=
  { plan, session := .ofSteps noon.wall "session" "task" plan.steps }

private def clicked : List (Moment × Signal) := [.start, .outcome (.finished .nothing), .turn].map (noon, ·)

/-- A bus that is left as a stopped session may leave it. -/
private def leftBehind : Bus := { start noon.seconds "earlier" with
  snapshot := { startedAt := noon.seconds, state := .str "stopped", stepId := .str "step-1", progress := .ofNat 50 } }

theorem snapshot_agrees_iff_clicked : Monitor.create noon.wall "session" "task" oneClick {} = .ok (quietRun oneClick) ∧
    ((quietRun oneClick).receiveAll clicked).phase = .finished ∧
      (leftBehind.hearAll ((quietRun oneClick).receiveAll clicked)).snapshot.progress = .ofNat 100 ∧
        (leftBehind.hearAll ((quietRun oneClick).receiveAll clicked)).snapshot.stepId = .str "step-2" := by
  have hcreate : Monitor.create noon.wall "session" "task" oneClick {} = .ok (quietRun oneClick) := rfl
  have hend : ((quietRun oneClick).receiveAll clicked).phase = .finished := by rfl
  have hbegun : ((quietRun oneClick).receiveAll clicked).session.begun = ["step-2"] := by rfl
  have hprogress : ((quietRun oneClick).receiveAll clicked).session.progress = .ofNat 100 := by decide +kernel
  obtain ⟨-, hagrees, hlast⟩ := snapshot_agrees_iff hcreate clicked hend leftBehind
  rw [hprogress] at hagrees
  rw [hbegun] at hlast
  exact ⟨hcreate, hend, hagrees.mpr (.inl nofun), hlast.mpr (.inl nofun)⟩

/-- A session without steps, on a bus of its own and on one that has been used. -/
theorem empty_session_unseen :
    let ended := (quietRun { oneClick with steps := [] }).receiveAll [(noon, .start)]
    ended.phase = .finished ∧ ended.session.progress = .ofNat 100 ∧ ended.session.begun = [] ∧
      ((start noon.seconds "").hearAll ended).snapshot.progress = .ofNat 0 ∧
        (leftBehind.hearAll ended).snapshot.progress = .ofNat 50 ∧
          (leftBehind.hearAll ended).snapshot.stepId = .str "step-1" := by
  refine ⟨rfl, by decide +kernel, rfl, by decide +kernel, by decide +kernel, rfl⟩

end Bus

end BrowserPilot
