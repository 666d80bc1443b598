import BrowserPilot.Proofs.Monitor.Log
import BrowserPilot.Proofs.Monitor.Receiving
import Mathlib.Data.List.Induction

/-!
# The protocol of a run

However a run ends, winding it up completes its log. The log of a run that is
over follows one grammar, and it says of the session what the session says.
-/

namespace BrowserPilot.Monitor

/-! ## Winding up -/

theorem winding_told (now : Moment) (reason : String) : ∀ (rest done : List StepStatus) (m : Monitor),
    (m.winding now reason done rest).events.map (·.kind) = m.events.map (·.kind) ++ unexecuted rest.length ∧
      said .stepStarted (m.winding now reason done rest).events = said .stepStarted m.events ∧
        said .stepFinished (m.winding now reason done rest).events =
          said .stepFinished m.events ++ (rest.map (StepStatus.abandoned now.wall reason)).map stepFinishedData
  | [], done, m => by simp [winding, unexecuted]
  | st :: rest, done, m => by
    obtain ⟨hk, hs, hf⟩ := winding_told now reason rest (done ++ [st.abandoned now.wall reason])
      (m.settling now done (st.faulted .failed (st.errorOr reason) reason) rest)
    refine ⟨?_, ?_, ?_⟩
    · rw [winding, hk, kinds_settling, List.length_cons, unexecuted_succ, List.append_assoc]
    · rw [winding, hs, said_started_settling]
    · rw [winding, hf, said_finished_settling, List.append_assoc]
      rfl

section
variable {m m' : Monitor} {chapters : List Chapter} {parked : Bool} {n : Nat}

theorem Told.congr (h : m.Told chapters parked) (he : m'.events = m.events) (hp : m'.plan = m.plan)
    (hs : m'.session.steps = m.session.steps) (hc : m.control.stopped = true → m'.control.stopped = true) :
    m'.Told chapters parked where
  kinds := by
    rw [he, hp]
    exact h.kinds
  length := by
    rw [hp]
    exact h.length
  calm := h.calm
  parked := fun hpark => hc (h.parked hpark)
  names := by
    rw [Session.names, hs, hp]
    exact h.names
  started := by
    rw [he, hp]
    exact h.started
  finished := by
    rw [he, hs]
    exact h.finished
  settled := by
    rw [hs]
    exact h.settled

section
variable {pre post : List Step} {done rest : List StepStatus} {tail : List EventKind}
  (hcut : m.session.Cut pre post done rest)
include hcut

theorem Logged.rest_length (h : m.Logged chapters n tail) (hpost : m.plan.steps = pre ++ post) :
    chapters.length ≤ m.plan.steps.length ∧ rest.length = m.plan.steps.length - chapters.length := by
  have hd : chapters.length = pre.length := by rw [h.length, hcut.closedSteps, hcut.settled.length_eq]
  have hr := hcut.unsettled.length_eq
  rw [hpost, List.length_append]
  omega

theorem Logged.winds (h : m.Logged chapters n tail) (now : Moment) (reason : String) (parked : Bool) {chapters' : List Chapter}
    (hk : chapters.flatMap Chapter.kinds ++ (tail ++ unexecuted rest.length) = chapters'.flatMap Chapter.kinds ++
      ((if parked then [.sessionPaused] else []) ++ unexecuted (m.plan.steps.length - chapters'.length)))
    (hl : chapters'.length ≤ m.plan.steps.length) (hn : n = chapters'.length) (hcalm : ∀ c ∈ chapters'.dropLast, c.IsCalm)
    (hstop : parked = true → m.control.stopped = true) : (m.winding now reason done rest).Told chapters' parked := by
  obtain ⟨hkinds, hstarted, hfinished⟩ := winding_told now reason rest done m
  have hw := winding_eq now reason rest done m hcut.steps
  have hplan : (m.winding now reason done rest).plan = m.plan := (congrArg Monitor.plan hw).trans rfl
  have hcontrol : (m.winding now reason done rest).control = m.control := (congrArg Monitor.control hw).trans rfl
  have hsteps : (m.winding now reason done rest).session.steps =
      done ++ rest.map (StepStatus.abandoned now.wall reason) := congrArg (fun m => m.session.steps) hw
  constructor
  case kinds => rw [hkinds, h.kinds, List.cons_append, List.append_assoc, hk, hplan]
  case length => rw [hplan]; exact hl
  case calm => exact hcalm
  case parked => rw [hcontrol]; exact hstop
  case names =>
    have hsame : (rest.map (StepStatus.abandoned now.wall reason)).map (·.stepId) = rest.map (·.stepId) := by
      rw [List.map_map]
      rfl
    rw [Session.names, hsteps, hplan, List.map_append, hsame, ← h.names, Session.names, hcut.steps, List.map_append]
  case started => rw [hstarted, h.started, hplan, hn]
  case finished => rw [hfinished, h.finished, hcut.closedSteps, hsteps, List.map_append]
  case settled =>
    have hwound := Session.Cut.winding now reason hcut
    rw [hsteps]
    exact hwound.terminal

end

theorem concluding_isTerminal (now : Moment) (m : Monitor) : (m.concluding now).session.isTerminal = true := by
  unfold concluding
  split
  · assumption
  · show m.lastState.isTerminal = true
    unfold lastState
    split <;> rfl

theorem Told.ending {done rest : List StepStatus} (now : Moment)
    (h : ({ m with isFinished := true }.winding now notExecuted done rest).Told chapters parked) :
    (m.ending now done rest).LogInv chapters.length := by
  let w := { m with isFinished := true }.winding now notExecuted done rest
  have hw : (w.concluding now).Told chapters parked := by
    have hc := concluding_eq now w
    refine h.congr ((congrArg Monitor.events hc).trans rfl) ((congrArg Monitor.plan hc).trans rfl)
      ((congrArg (fun m => m.session.steps) hc).trans rfl) fun hst => ?_
    exact (congrArg (fun m => m.control.stopped) hc).trans hst
  show LogInv _ (if (w.concluding now).control.stopped then
    { (w.concluding now).request now .closeBrowser with phase := .closing } else (w.concluding now).announceEnd now)
  split
  · exact ⟨chapters, parked, rfl, hw.congr rfl rfl rfl fun hst => hst⟩
  · exact ⟨concluding_isTerminal now w, _, now, chapters, parked, rfl, rfl, hw.congr rfl rfl rfl fun hst => hst⟩

/-- However a move ends, the run goes on with its log or has completed it. -/
theorem afterMove_log (now : Moment) {p : Plan} {c : Control} {r : Except Halt (Monitor × Next)} (h : LogLands n r)
    (hl : Lands p c r) : ∃ n', (afterMove now r).LogInv n' ∧ (afterMove now r).Grows n n' := by
  match r, h with
  | .ok (m, .wait), h => exact h
  | .ok (m, .leave), h =>
    obtain ⟨pre, post, done, rest, hpost, hcut⟩ := hl.split
    obtain ⟨chapters, parked, rfl, hlast, hstop, hlog⟩ := h
    have hp : m.plan.steps = pre ++ post := (congrArg Plan.steps hl.plan).trans hpost
    obtain ⟨hlen, hrest⟩ := hlog.rest_length hcut hp
    have htold := Logged.winds (m := { m with isFinished := true }) hcut (hlog.congr rfl rfl rfl) now notExecuted
      parked (by rw [hrest]) hlen rfl hlast hstop
    simp only [afterMove, finish_eq hcut.steps hcut.terminal hcut.pending, orRaised]
    exact ⟨_, htold.ending now, .inl rfl⟩
  | .error ⟨m, f⟩, h =>
    obtain ⟨pre, post, done, rest, hpost, hcut⟩ := hl.split
    obtain ⟨hlt, b, chapters, c, rfl, hcalm, hstop, hfault, hlog⟩ := h
    simp only at hlt hlog hcut
    have hp : m.plan.steps = pre ++ post := (congrArg Plan.steps hl.plan).trans hpost
    obtain ⟨hlen, hrest⟩ := hlog.rest_length hcut hp
    let m₀ := m.emit now .error [("error", .str f.message)]
    have herror : m₀.Logged chapters (chapters.length + 1) (c.opening ++ [.error]) :=
      hlog.tells m₀ rfl rfl rfl (by simp)
    -- the first step that is left is the one that met the fault
    have hk : chapters.flatMap Chapter.kinds ++ ((c.opening ++ [.error]) ++ unexecuted rest.length) =
        (chapters ++ [{ c with faulted := true }]).flatMap Chapter.kinds ++
          ([] ++ unexecuted (m.plan.steps.length - (chapters ++ [{ c with faulted := true }]).length)) := by
      have hsucc : rest.length = (m.plan.steps.length - (chapters.length + 1)) + 1 := by
        omega
      rw [hsucc, unexecuted_succ, ← Chapter.opening_fault hfault]
      simp [Chapter.kinds]
    have hlt' : (chapters ++ [{ c with faulted := true }]).length ≤ m₀.plan.steps.length := by
      rw [List.length_append]
      exact hlt
    have htold := Logged.winds (m := m₀) hcut herror now (reasonOf f) false hk hlt' (by simp)
      (by simpa using hcalm) (by simp)
    have hwound := Session.Cut.winding (m := m₀) now (reasonOf f) hcut
    have hrec := recover_eq (m := m) hcut.steps hcut.terminal hcut.pending now f
    have hend := finish_eq hwound.steps hwound.terminal hwound.pending now
    simp only [afterMove, hrec, Except.bind]
    rw [show Monitor.finish now _ = _ from hend]
    refine ⟨(chapters ++ [{ c with faulted := true }]).length, ?_, .inl (by simp)⟩
    exact Told.ending now (htold.congr rfl rfl rfl id)

/-! ## Signals keep the log -/

theorem LogPhase.congr {ph : Phase} (h : m.LogPhase n ph) (he : m'.events = m.events) (hp : m'.plan = m.plan)
    (hs : m'.session.steps = m.session.steps) (hf : m.session.isTerminal = true → m'.session = m.session)
    (hc : m.control.stopped = true → m'.control.stopped = true) : m'.LogPhase n ph := by
  match ph, h with
  | .ready, ⟨h, hn⟩ => exact ⟨he.trans h, hn⟩
  | .parked _ _, ⟨hi, hlt, chapters, hn, hcalm, hlog⟩ => exact ⟨hi, hp ▸ hlt, chapters, hn, hcalm, hlog.congr he hp hs⟩
  | .inFlight _ _, h | .backingOff _ _, h => exact Opens.congr h he hp hs
  | .inGrace _ _ _, ⟨hst, h⟩ => exact ⟨hc hst, h.congr he hp hs⟩
  | .closing, ⟨chapters, parked, hn, h⟩ => exact ⟨chapters, parked, hn, h.congr he hp hs hc⟩
  | .finished, ⟨ht, es, t, chapters, parked, hn, hes, h⟩ =>
    have hsame := hf ht
    refine ⟨hsame ▸ ht, es, t, chapters, parked, hn, ?_, h.congr rfl hp hs hc⟩
    rw [he, hsame]
    exact hes

theorem apply_stopped (c : Control) (call : ControlCall) (h : c.stopped = true) : (c.apply call).stopped = true := by
  have ha := Control.after_stopped (.control call) c
  rw [h, Bool.true_or] at ha
  exact ha

theorem LogInv.applyControl (h : m.LogInv n) (call : ControlCall) : (m.applyControl call).LogInv n := by
  have hph : (m.applyControl call).LogPhase n m.phase :=
    LogPhase.congr h rfl rfl rfl (fun _ => rfl) (apply_stopped m.control call)
  unfold LogInv
  cases hphase : m.phase <;> simp only [hphase, Monitor.applyControl] at hph ⊢ <;> exact hph

theorem LogInv.stopping (h : m.LogInv n) (now : Moment) : (m.stopping now).LogInv n := by
  have hphase := stopping_phase now m
  have hsame (ht : m.session.isTerminal = true) : (m.stopping now).session = m.session := by
    rw [Monitor.stopping, if_pos ht]
  have hc : m.control.stopped = true → (m.stopping now).control.stopped = true := by
    rw [stopping_control]
    exact id
  unfold LogInv
  rw [hphase]
  exact LogPhase.congr h (stopping_events now m) (stopping_plan now m) (stopping_steps now m) hsame hc

theorem LogBehind.start {p : Plan} {c : Control} (h : m.Inv p c) (hready : m.phase = .ready) (hl : m.LogInv n)
    (now : Moment) (data : Json.Members) :
    n = 0 ∧ (m.emit now .sessionStarted data).LogBehind 0 := by
  obtain ⟨rfl, rfl, hph⟩ := h
  rw [hready] at hph
  obtain ⟨_, _, hcut⟩ := hph
  obtain ⟨hevents, hn⟩ := hl.inPhase hready
  refine ⟨hn, [], rfl, by simp, by simp, ?_⟩
  have hclosed : (m.emit now .sessionStarted data).session.closedSteps = [] := hcut.closedSteps
  have hlist : (m.emit now .sessionStarted data).events = [⟨now, .sessionStarted, data⟩] := by
    simp [emit, hevents]
  constructor
  case kinds => rw [hlist]; rfl
  case length => rw [hclosed]; rfl
  case names =>
    rw [Session.names, show (m.emit now .sessionStarted data).session.steps = _ from hcut.steps, List.nil_append,
      List.map_map]
    rfl
  case started => rw [hlist]; rfl
  case finished => rw [hlist, hclosed]; rfl

theorem LogInv.heard {s : Signal} {ph : Phase} (h : m.LogInv n) (hh : m.phase.Hears s ph) :
    { m with phase := ph }.LogInv n := by
  have hlog : m.LogPhase n ph := by
    unfold LogInv at h
    generalize m.phase = ph₀ at h hh
    cases hh <;> exact h
  exact hlog.congr rfl rfl rfl (fun _ => rfl) id

/-- **A signal keeps the log**, and at most one step is started by it. -/
theorem receive_log {p : Plan} {c : Control} (h : m.phase ≠ .finished → m.Inv p c) (hl : m.LogInv n) (now : Moment)
    {s : Signal} (hs : s.isOfRun = true) : ∃ n', (m.receive now s).LogInv n' ∧ (m.receive now s).Grows n n' := by
  have hreceives := receive_receives h now hs
  generalize m.receive now s = m' at hreceives
  cases hreceives with
  | called call => exact ⟨n, hl.applyControl call, .inl rfl⟩
  | halted => exact ⟨n, (hl.applyControl .stop).stopping now, .inl rfl⟩
  | @begun data _ hinv hready _ hb he hland =>
    obtain ⟨rfl, hlog⟩ := LogBehind.start hinv hready hl now data
    exact afterMove_log now (hlog.enters hb he) hland
  | turned _ _ ht hland => exact afterMove_log now (ht.log hl) hland
  | heard hh => exact ⟨n, hl.heard hh, .inl rfl⟩
  | closed hinv hclosing =>
    have hover := hinv.phase
    rw [hclosing] at hover
    obtain ⟨chapters, parked, hn, htold⟩ := hl.inPhase hclosing
    refine ⟨n, ⟨hover.2.isTerminal, _, now, chapters, parked, hn, rfl, ?_⟩, .inl rfl⟩
    exact htold.congr rfl rfl rfl id
  | missed _ => exact ⟨n, hl, .inl rfl⟩

end

/-! ## The steps that run -/

section
variable {m : Monitor} {p : Plan} {c : Control} {n i : Nat}

theorem Runs.of_cut {pre post : List Step} {done rest : List StepStatus} (h : m.Runs i)
    (hcut : m.session.Cut pre post done rest) : ∃ st, rest[i - done.length]? = some st ∧ st.state = .running ∧
      done.length ≤ i := by
  obtain ⟨st, hi, hr⟩ := h
  rw [hcut.steps] at hi
  rcases Nat.lt_or_ge i done.length with hlt | hge
  · rw [List.getElem?_append_left hlt] at hi
    exact absurd hr (StepStatus.not_running_of_isTerminal (hcut.terminal st (List.mem_of_getElem? hi)))
  · rw [List.getElem?_append_right hge] at hi
    exact ⟨st, hi, hr, hge⟩

theorem not_running_untouched {post : List Step} {j : Nat} {st : StepStatus}
    (h : (post.map StepStatus.ofStep)[j]? = some st) : st.state ≠ .running := by
  obtain ⟨step, _, rfl⟩ := List.mem_map.mp (List.mem_of_getElem? h)
  exact nofun

theorem Opens.runs {a : Attempt} {step : Step} {st : StepStatus} {b : Bool} (h : m.Opens n b)
    (hatt : m.session.Attempts m.plan a step st) (hr : m.Runs i) : i < n := by
  obtain ⟨post, done, ⟨pre, hpost, hcut⟩, _⟩ := Tries.of_attempts rfl hatt
  have hn := h.length_eq ⟨pre, hpost, hcut⟩
  obtain ⟨st', hi, hrun, hge⟩ := hr.of_cut hcut
  rcases hj : i - done.length with _ | j
  · omega
  · rw [hj, List.getElem?_cons_succ] at hi
    exact absurd hrun (not_running_untouched hi)

theorem Told.not_runs {chapters : List Chapter} {parked : Bool} (h : m.Told chapters parked) : ¬m.Runs i := by
  rintro ⟨st, hi, hr⟩
  exact StepStatus.not_running_of_isTerminal (h.settled st (List.mem_of_getElem? hi)) hr

theorem LogInv.runs (h : m.LogInv n) (hinv : m.phase ≠ .finished → m.Inv p c) (hr : m.Runs i) : i < n := by
  by_cases hfin : m.phase = .finished
  · obtain ⟨_, es, t, chapters, parked, _, _, htold⟩ := h.inPhase hfin
    exact absurd hr htold.not_runs
  · obtain ⟨rfl, rfl, hph⟩ := hinv hfin
    cases hphase : m.phase with
    | ready =>
      rw [hphase] at hph
      obtain ⟨st, hi, hrun, _⟩ := hr.of_cut hph.2.2
      exact absurd hrun (not_running_untouched hi)
    | parked j woken =>
      rw [hphase] at hph
      obtain ⟨_, pre, post, done, _, _, hcut⟩ := hph
      obtain ⟨st, hi, hrun, _⟩ := hr.of_cut hcut
      exact absurd hrun (not_running_untouched hi)
    | inFlight a o =>
      rw [hphase] at hph
      obtain ⟨_, step, st, _, hatt⟩ := hph
      exact Opens.runs (h.inPhase hphase) hatt hr
    | inGrace a o expired =>
      rw [hphase] at hph
      obtain ⟨_, step, st, _, hatt⟩ := hph
      exact Opens.runs (h.inPhase hphase).2 hatt hr
    | backingOff a slept =>
      rw [hphase] at hph
      obtain ⟨_, step, st, _, _, _, hatt⟩ := hph
      exact Opens.runs (h.inPhase hphase) hatt hr
    | closing =>
      obtain ⟨chapters, parked, _, htold⟩ := h.inPhase hphase
      exact absurd hr htold.not_runs
    | finished => exact absurd hphase hfin
    | raised f =>
      exact absurd (h.inPhase hphase) id

end

/-! ## Whole runs -/

section
variable {m : Monitor} {p : Plan} {c : Control}

theorem receive_fixed (h : m.phase ≠ .finished → m.Inv p c) (hp : m.plan = p) (hc : m.control = c) (now : Moment) {s : Signal}
    (hs : s.isOfRun = true) : (m.receive now s).plan = p ∧ (m.receive now s).control = c.after s := by
  by_cases hph : m.phase = .finished
  · match s with
    | .control call => exact ⟨hp, congrArg (Control.apply call) hc⟩
    | .stop =>
      rw [receive_stop, stopping_plan, stopping_control]
      exact ⟨hp, congrArg (Control.apply .stop) hc⟩
    | .turn => simpa only [receive, takeTurn, hph, afterMove] using ⟨hp, hc⟩
    | .start | .outcome _ | .timeUp | .closed => simpa only [receive, hph] using ⟨hp, hc⟩
  · have hinv := receive_inv now (h hph) hph hs
    exact ⟨hinv.plan, hinv.control⟩

variable {now : Instant} {id taskName : String}

theorem receiveAll_snoc (signals : List (Moment × Signal)) (x : Moment × Signal) (m : Monitor) :
    m.receiveAll (signals ++ [x]) = (m.receiveAll signals).receive x.1 x.2 := by
  rw [receiveAll, receiveAll, List.foldl_append]
  rfl

theorem receiveAll_fixed (hm : create now id taskName p c = .ok m) (signals : List (Moment × Signal))
    (hs : ∀ x ∈ signals, x.2.isOfRun = true) :
    (m.receiveAll signals).plan = p ∧ (m.receiveAll signals).control = c.afterAll signals := by
  induction signals using List.reverseRecOn with
  | nil =>
    have hinv := create_inv hm
    exact ⟨hinv.plan, hinv.control⟩
  | append_singleton signals x ih =>
    have hs' : ∀ y ∈ signals, y.2.isOfRun = true := fun y hy => hs y (by simp [hy])
    obtain ⟨hp, hc⟩ := ih hs'
    have h := receive_fixed (receiveAll_inv signals (create_inv hm) hs') hp hc x.1 (hs x (by simp))
    rw [receiveAll_snoc, Control.afterAll, List.foldl_append]
    exact h

theorem receiveAll_log (hm : create now id taskName p c = .ok m) (signals : List (Moment × Signal))
    (hs : ∀ x ∈ signals, x.2.isOfRun = true) :
    ∃ n, (m.receiveAll signals).LogInv n ∧ ∀ i, i < n ↔ ∃ before, before <+: signals ∧ (m.receiveAll before).Runs i := by
  induction signals using List.reverseRecOn with
  | nil =>
    have hl : m.LogInv 0 := by
      rw [create_eq hm]
      exact ⟨rfl, rfl⟩
    refine ⟨0, hl, fun i => ⟨fun h => absurd h (Nat.not_lt_zero i), ?_⟩⟩
    rintro ⟨before, hb, hr⟩
    rw [List.prefix_nil.mp hb] at hr
    exact LogInv.runs hl (fun _ => create_inv hm) hr
  | append_singleton signals x ih =>
    have hs' : ∀ y ∈ signals, y.2.isOfRun = true := fun y hy => hs y (by simp [hy])
    obtain ⟨n, hl, hran⟩ := ih hs'
    have hinv := receiveAll_inv signals (create_inv hm) hs'
    obtain ⟨n', hl', hgrows⟩ := receive_log hinv hl x.1 (hs x (by simp))
    rw [← receiveAll_snoc] at hl' hgrows
    refine ⟨n', hl', fun i => ⟨fun hi => ?_, ?_⟩⟩
    · have hold : i < n → ∃ before, before <+: signals ++ [x] ∧ (m.receiveAll before).Runs i := fun hlt => by
        obtain ⟨before, hb, hr⟩ := (hran i).mp hlt
        exact ⟨before, hb.trans (List.prefix_append _ _), hr⟩
      rcases hgrows with rfl | ⟨rfl, hr⟩
      · exact hold hi
      · rcases Nat.lt_succ_iff_lt_or_eq.mp hi with hlt | rfl
        · exact hold hlt
        · exact ⟨signals ++ [x], List.prefix_rfl, hr⟩
    · rintro ⟨before, hb, hr⟩
      rcases List.prefix_concat_iff.mp hb with rfl | hb
      · exact LogInv.runs hl' (receiveAll_inv _ (create_inv hm) hs) hr
      · have hlt := (hran i).mpr ⟨before, hb, hr⟩
        rcases hgrows with rfl | ⟨rfl, _⟩
        · exact hlt
        · omega

end

/-! ## The log of a run that is over -/

/-- The log of a run that is over: a chapter for each executed step, a pause
that was not resumed, and the steps that were never executed. -/
structure Recounts (es : List Emission) (plan : Plan) (s : Session) (chapters : List Chapter) (parked : Bool) : Prop where
  kinds : es.map (·.kind) = .sessionStarted :: (chapters.flatMap Chapter.kinds ++
    ((if parked then [.sessionPaused] else []) ++ unexecuted (plan.steps.length - chapters.length)) ++ [.sessionFinished])
  length : chapters.length ≤ plan.steps.length
  /-- Only in the last executed step the run is stopped, or fails. -/
  calm : ∀ c ∈ chapters.dropLast, c.IsCalm
  names : s.names = plan.steps.map (·.id)
  started : said .stepStarted es = (plan.steps.take chapters.length).map startedData
  finished : said .stepFinished es = s.steps.map stepFinishedData
  ended : said .sessionFinished es = [finishedData s]

/-- A mark that no calm chapter has and the others at most once is in the log at most once. -/
theorem count_chapters {chapters : List Chapter} (h : ∀ c ∈ chapters.dropLast, c.IsCalm) {k : EventKind} {mark : Chapter → Bool}
    (hk : ∀ c : Chapter, c.kinds.count k = (mark c).toNat) (hcalm : ∀ c : Chapter, c.IsCalm → mark c = false) :
    (chapters.flatMap Chapter.kinds).count k ≤ 1 := by
  by_cases hne : chapters = []
  · simp [hne]
  · have hfirst : (chapters.dropLast.flatMap Chapter.kinds).count k = 0 := by
      rw [List.count_eq_zero, List.mem_flatMap]
      rintro ⟨c, hc, hmem⟩
      have hzero : c.kinds.count k = 0 := by rw [hk, hcalm c (h c hc), Bool.toNat_false]
      exact List.count_eq_zero.mp hzero hmem
    rw [← List.dropLast_append_getLast hne, List.flatMap_append, List.count_append, hfirst, Nat.zero_add, List.flatMap_cons,
      List.flatMap_nil, List.append_nil, hk]
    exact Bool.toNat_le _

section
variable {es : List Emission} {plan : Plan} {s : Session} {chapters : List Chapter} {parked : Bool}

theorem not_mem_middle {k : EventKind} (h : k ∉ [EventKind.sessionPaused, .stepFinished, .progress]) (parked : Bool) (n : Nat) :
    k ∉ (if parked then [.sessionPaused] else []) ++ unexecuted n := by
  simp only [List.mem_cons, List.not_mem_nil, or_false, not_or] at h
  intro hk
  rcases List.mem_append.mp hk with hk | hk
  · cases parked with
    | false => cases hk
    | true => exact h.1 (List.mem_singleton.mp hk)
  · rcases mem_unexecuted hk with hk | hk
    · exact h.2.1 hk
    · exact h.2.2 hk

/-- Events that are not told of the steps that were not executed. -/
theorem Recounts.count_eq (h : Recounts es plan s chapters parked) {k : EventKind}
    (hk : k ∉ [EventKind.sessionPaused, .stepFinished, .progress]) :
    (es.map (·.kind)).count k = [EventKind.sessionStarted].count k + (chapters.flatMap Chapter.kinds).count k +
      [EventKind.sessionFinished].count k := by
  have hmiddle := List.count_eq_zero.mpr
    (not_mem_middle hk parked (plan.steps.length - chapters.length))
  rw [h.kinds, ← List.singleton_append, List.count_append, List.count_append, List.count_append, hmiddle, Nat.add_zero,
    Nat.add_assoc]

theorem Recounts.count_ends (h : Recounts es plan s chapters parked) :
    (es.map (·.kind)).count .sessionStarted = 1 ∧ (es.map (·.kind)).count .sessionFinished = 1 := by
  have hstart : (chapters.flatMap Chapter.kinds).count .sessionStarted = 0 := by
    rw [List.count_eq_zero, List.mem_flatMap]
    rintro ⟨c, _, hc⟩
    exact (Chapter.mem_kinds hc).1 rfl
  have hfinish : (chapters.flatMap Chapter.kinds).count .sessionFinished = 0 := by
    rw [List.count_eq_zero, List.mem_flatMap]
    rintro ⟨c, _, hc⟩
    exact (Chapter.mem_kinds hc).2 rfl
  rw [h.count_eq (k := .sessionStarted) (by decide), h.count_eq (k := .sessionFinished) (by decide), hstart, hfinish]
  exact ⟨rfl, rfl⟩

theorem Recounts.count_marks (h : Recounts es plan s chapters parked) :
    (es.map (·.kind)).count .sessionStopping ≤ 1 ∧ (es.map (·.kind)).count .error ≤ 1 := by
  have hstop := count_chapters h.calm (fun c => c.count_marks.1) fun _ hc => hc.1
  have herror := count_chapters h.calm (fun c => c.count_marks.2) fun _ hc => hc.2
  rw [h.count_eq (k := .sessionStopping) (by decide), h.count_eq (k := .error) (by decide)]
  exact ⟨by simpa using hstop, by simpa using herror⟩

end

/-- **The log of every run follows the protocol.** It tells of each step in the
order of the plan, with what the record of the step says in the end. The
chapters are those of the steps that ever ran. -/
theorem run_log {now : Instant} {id taskName : String} {plan : Plan} {control : Control} {m : Monitor}
    (hm : create now id taskName plan control = .ok m) {signals : List (Moment × Signal)}
    (hs : ∀ x ∈ signals, x.2.isOfRun = true) (hend : (m.receiveAll signals).phase = .finished) :
    ∃ chapters parked,
      Recounts (m.receiveAll signals).events plan (m.receiveAll signals).session chapters parked ∧
        (parked = true → (control.stopped || signals.any (·.2.asksStop)) = true) ∧
          (∀ i, i < chapters.length ↔ ∃ before, before <+: signals ∧ (m.receiveAll before).Runs i) ∧
            ((m.receiveAll signals).events.map (·.kind)).count .sessionStarted = 1 ∧
              ((m.receiveAll signals).events.map (·.kind)).count .sessionFinished = 1 ∧
                ((m.receiveAll signals).events.map (·.kind)).count .sessionStopping ≤ 1 ∧
                  ((m.receiveAll signals).events.map (·.kind)).count .error ≤ 1 := by
  obtain ⟨n, hl, hran⟩ := receiveAll_log hm signals hs
  obtain ⟨hplan, hcontrol⟩ := receiveAll_fixed hm signals hs
  obtain ⟨_, es, t, chapters, parked, rfl, hes, htold⟩ := hl.inPhase hend
  have hsteps : (m.receiveAll signals).plan.steps = plan.steps := congrArg Plan.steps hplan
  -- the event behind the chapters is the only one that tells of the end, and tells of nothing else
  have hlast {k : EventKind} (hk : k ≠ .sessionFinished) :
      said k (m.receiveAll signals).events = said k es := by
    have hnil : said k [⟨t, .sessionFinished, finishedData (m.receiveAll signals).session⟩] = [] :=
      said_eq_nil (by simpa using hk)
    rw [hes, said_append, hnil, List.append_nil]
  have hrec : Recounts (m.receiveAll signals).events plan (m.receiveAll signals).session chapters parked := by
    constructor
    case kinds =>
      rw [hes, List.map_append, htold.kinds, ← hsteps]
      simp
    case length => exact hsteps ▸ htold.length
    case calm => exact htold.calm
    case names => exact hsteps ▸ htold.names
    case started =>
      rw [hlast (k := .stepStarted) (by decide), ← hsteps]
      exact htold.started
    case finished =>
      rw [hlast (k := .stepFinished) (by decide)]
      exact htold.finished
    case ended =>
      have hnone : said .sessionFinished es = [] := by
        refine said_eq_nil ?_
        have hk : es.map (·.kind) = _ := htold.kinds
        rw [hk, List.mem_cons, List.mem_append, not_or, not_or, List.mem_flatMap]
        refine ⟨by decide, ?_, not_mem_middle (by decide) _ _⟩
        rintro ⟨c, _, hc⟩
        exact (Chapter.mem_kinds hc).2 rfl
      rw [hes, said_append, hnone]
      rfl
  refine ⟨chapters, parked, hrec, fun hpark => ?_, hran, hrec.count_ends.1, hrec.count_ends.2, hrec.count_marks⟩
  have hstop : (m.receiveAll signals).control.stopped = true := htold.parked hpark
  rw [← Control.afterAll_stopped, ← hcontrol]
  exact hstop

private def twoClicks : Plan where
  steps := [⟨"buy", 1, .click "#buy", [], ⟨false, 1⟩⟩, ⟨"pay", 2, .click "#pay", [], {}⟩]
  delay _ _ := .ok (.part (.ofNat 1))

private def noon : Moment := .ofSeconds (.ofNat 0)

/-- A pause in front of the first step, a retry, and a stop that the retry does not outlast. -/
private def brokenOff : List (Moment × Signal) :=
  [.control .pause, .start, .control .resume, .turn, .outcome (.raised (.foreign "ValueError" "boom")), .turn, .timeUp, .turn,
    .stop, .turn, .timeUp, .turn, .closed].map (noon, ·)

private def freshClicks : Monitor := { plan := twoClicks, session := .ofSteps noon.wall "session" "task" twoClicks.steps }

theorem run_log_brokenOff : create noon.wall "session" "task" twoClicks {} = .ok freshClicks ∧
    (∀ x ∈ brokenOff, x.2.isOfRun = true) ∧ (freshClicks.receiveAll brokenOff).phase = .finished ∧
      (∃ chapters parked,
        Recounts (freshClicks.receiveAll brokenOff).events twoClicks (freshClicks.receiveAll brokenOff).session chapters parked ∧
          ∀ i, i < chapters.length ↔ ∃ before, before <+: brokenOff ∧ (freshClicks.receiveAll before).Runs i) ∧
        (freshClicks.receiveAll brokenOff).events.map (·.kind) =
          [.sessionStarted, .sessionPaused, .sessionResumed, .stepStarted, .stepRetrying, .sessionStopping, .stepFinished, .progress,
            .stepFinished, .progress, .sessionFinished] := by
  have hcreate : create noon.wall "session" "task" twoClicks {} = .ok freshClicks := rfl
  have hrun : ∀ x ∈ brokenOff, x.2.isOfRun = true := by simp [brokenOff, Signal.isOfRun]
  have hend : (freshClicks.receiveAll brokenOff).phase = .finished := by rfl
  obtain ⟨chapters, parked, hrec, _, hran, _⟩ := run_log hcreate hrun hend
  exact ⟨hcreate, hrun, hend, ⟨chapters, parked, hrec, hran⟩, by rfl⟩

end BrowserPilot.Monitor
