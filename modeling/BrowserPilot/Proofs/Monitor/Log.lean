import BrowserPilot.Proofs.Monitor.Turns

/-!
# The log of a run

What a run tells its observers is a chapter for each step that it executed and
a note for each step that it did not, between the start of the session and its
end. The log tells of every step what its record says in the end.
-/

namespace BrowserPilot

/-! ## What events say -/

def said (k : EventKind) (es : List Emission) : List Json.Members := (es.filter fun e => e.kind = k).map (·.data)

@[simp] theorem said_append (k : EventKind) (es es' : List Emission) : said k (es ++ es') = said k es ++ said k es' := by
  simp [said]

theorem said_eq_nil {k : EventKind} {es : List Emission} (h : k ∉ es.map (·.kind)) : said k es = [] := by
  rw [said, List.map_eq_nil_iff, List.filter_eq_nil_iff]
  intro e he hk
  exact h (List.mem_map.mpr ⟨e, he, of_decide_eq_true hk⟩)

/-- What an executed step gives the log. -/
structure Chapter where
  /-- A pause in front of the step. -/
  paused : Bool := false
  retries : Nat := 0
  /-- A stop while a primitive was running. -/
  stopping : Bool := false
  /-- A fault that ended the run. -/
  faulted : Bool := false

namespace Chapter

/-- The chapter until the step is settled. -/
def opening (c : Chapter) : List EventKind :=
  (if c.paused then [.sessionPaused, .sessionResumed] else []) ++ .stepStarted :: (List.replicate c.retries .stepRetrying ++
    ((if c.stopping then [.sessionStopping] else []) ++ if c.faulted then [.error] else []))

def kinds (c : Chapter) : List EventKind := c.opening ++ [.stepFinished, .progress]

/-- Nothing in the chapter ends the run. -/
def IsCalm (c : Chapter) : Prop := c.stopping = false ∧ c.faulted = false

variable {c : Chapter}

theorem IsCalm.retry (h : c.IsCalm) : { c with retries := c.retries + 1 }.opening = c.opening ++ [.stepRetrying] := by
  simp [opening, h.1, h.2, List.replicate_succ']

theorem IsCalm.stop (h : c.IsCalm) : { c with stopping := true }.opening = c.opening ++ [.sessionStopping] := by
  simp [opening, h.1, h.2]

theorem opening_fault (h : c.faulted = false) : { c with faulted := true }.opening = c.opening ++ [.error] := by
  simp [opening, h]

theorem mem_kinds {k : EventKind} (h : k ∈ c.kinds) : k ≠ .sessionStarted ∧ k ≠ .sessionFinished := by
  obtain ⟨paused, retries, stopping, faulted⟩ := c
  constructor
  · rintro rfl
    cases paused <;> cases stopping <;> cases faulted <;> simp [kinds, opening] at h
  · rintro rfl
    cases paused <;> cases stopping <;> cases faulted <;> simp [kinds, opening] at h

theorem count_marks (c : Chapter) :
    c.kinds.count .sessionStopping = c.stopping.toNat ∧ c.kinds.count .error = c.faulted.toNat := by
  obtain ⟨paused, retries, stopping, faulted⟩ := c
  cases paused <;> cases stopping <;> cases faulted <;> simp [kinds, opening, List.count_replicate]

end Chapter

/-- The events of `n` steps that are settled without having been executed. -/
def unexecuted (n : Nat) : List EventKind := (List.replicate n [.stepFinished, .progress]).flatten

theorem unexecuted_succ (n : Nat) : unexecuted (n + 1) = [.stepFinished, .progress] ++ unexecuted n := by
  simp [unexecuted, List.replicate_succ]

theorem mem_unexecuted {n : Nat} {k : EventKind} (h : k ∈ unexecuted n) : k = .stepFinished ∨ k = .progress := by
  simp only [unexecuted, List.mem_flatten, List.mem_replicate] at h
  obtain ⟨l, ⟨_, rfl⟩, hk⟩ := h
  simpa using hk

/-! ## Settled records -/

def Session.closedSteps (s : Session) : List StepStatus := s.steps.filter (·.final)

def Session.names (s : Session) : List String := s.steps.map (·.stepId)

section
variable {s : Session} {pre post : List Step} {done rest : List StepStatus}

theorem StepStatus.final_of_isTerminal {st : StepStatus} (h : st.isTerminal = true) : st.final = true := by
  simp only [isTerminal, Bool.and_eq_true] at h
  exact h.1

theorem StepStatus.not_running_of_isTerminal {st : StepStatus} (h : st.isTerminal = true) : st.state ≠ .running := by
  intro hr
  simp [isTerminal, hr, StepState.isTerminal] at h

theorem StepStatus.not_final_of_isPending {st : StepStatus} (h : st.isPending = true) : st.final = false := by
  simp only [isPending, Bool.and_eq_true, Bool.not_eq_true'] at h
  exact h.1

theorem Session.Cut.filter_done (h : s.Cut pre post done rest) : done.filter (·.final) = done :=
  List.filter_eq_self.mpr fun st hst => StepStatus.final_of_isTerminal (h.terminal st hst)

theorem Session.Cut.filter_rest (h : s.Cut pre post done rest) : rest.filter (·.final) = [] :=
  List.filter_eq_nil_iff.mpr fun st hst => by simp [StepStatus.not_final_of_isPending (h.pending st hst)]

theorem Session.Cut.closedSteps (h : s.Cut pre post done rest) : s.closedSteps = done := by
  rw [Session.closedSteps, h.steps, List.filter_append, h.filter_done, h.filter_rest, List.append_nil]

end

namespace Monitor

section
variable (now : Moment) (done : List StepStatus) (st : StepStatus) (rest : List StepStatus) (m : Monitor)

theorem kinds_settling :
    (m.settling now done st rest).events.map (·.kind) = m.events.map (·.kind) ++ [.stepFinished, .progress] := by
  simp [settling]

theorem said_finished_settling : said .stepFinished (m.settling now done st rest).events =
    said .stepFinished m.events ++ [stepFinishedData (st.closed now.wall)] :=
  said_append ..

theorem said_started_settling : said .stepStarted (m.settling now done st rest).events = said .stepStarted m.events :=
  (said_append ..).trans (List.append_nil _)

end

/-- The log of a monitor: the chapters of the settled steps, then `tail`. So far
`n` steps have been started. -/
structure Logged (m : Monitor) (chapters : List Chapter) (n : Nat) (tail : List EventKind) : Prop where
  kinds : m.events.map (·.kind) = .sessionStarted :: (chapters.flatMap Chapter.kinds ++ tail)
  length : chapters.length = m.session.closedSteps.length
  names : m.session.names = m.plan.steps.map (·.id)
  started : said .stepStarted m.events = (m.plan.steps.take n).map startedData
  finished : said .stepFinished m.events = m.session.closedSteps.map stepFinishedData

section
variable {m m' : Monitor} {chapters : List Chapter} {n : Nat} {tail : List EventKind}

theorem Logged.append (h : m.Logged chapters n tail) (es : List Emission) (he : m'.events = m.events ++ es)
    (hp : m'.plan = m.plan) (hc : m'.session.closedSteps = m.session.closedSteps) (hn : m'.session.names = m.session.names)
    (hk : ∀ k ∈ es.map (·.kind), k ≠ .stepStarted ∧ k ≠ .stepFinished) :
    m'.Logged chapters n (tail ++ es.map (·.kind)) where
  kinds := by
    rw [he, List.map_append, h.kinds, List.cons_append, List.append_assoc]
  length := h.length.trans (congrArg List.length hc.symm)
  names := by
    rw [hn, hp]
    exact h.names
  started := by
    have hs : said .stepStarted es = [] := said_eq_nil fun hm => (hk _ hm).1 rfl
    rw [he, said_append, hs, List.append_nil, hp]
    exact h.started
  finished := by
    have hs : said .stepFinished es = [] := said_eq_nil fun hm => (hk _ hm).2 rfl
    rw [he, said_append, hs, List.append_nil, hc]
    exact h.finished

section
variable {step : Step} {post : List Step} {done : List StepStatus} {st : StepStatus} (hat : m.At step post done st)
include hat

theorem At.closedSteps : m.session.closedSteps = done := by
  obtain ⟨pre, _, hcut⟩ := hat
  exact hcut.closedSteps

/-- The step at hand may change as long as it is not settled. -/
theorem At.closedSteps_replace {s : Session} {st' : StepStatus} (hs : s.steps = done ++ st' :: post.map StepStatus.ofStep)
    (hf : st'.final = false) : s.closedSteps = m.session.closedSteps := by
  rw [Session.closedSteps, Session.closedSteps, hs, hat.steps]
  simp [List.filter_append, hf, hat.isOpen.final]

theorem At.names_replace {s : Session} {st' : StepStatus} (hs : s.steps = done ++ st' :: post.map StepStatus.ofStep)
    (hi : st'.stepId = st.stepId) : s.names = m.session.names := by
  rw [Session.names, Session.names, hs, hat.steps]
  simp [hi]

theorem At.closedSteps_settling (now : Moment) (st' : StepStatus) :
    (m.settling now done st' (post.map StepStatus.ofStep)).session.closedSteps = done ++ [st'.closed now.wall] := by
  obtain ⟨pre, _, hcut⟩ := hat
  have hrest : (post.map StepStatus.ofStep).filter (·.final) = [] :=
    List.filter_eq_nil_iff.mpr fun t ht => by
      obtain ⟨step, _, rfl⟩ := List.mem_map.mp ht
      simp [StepStatus.ofStep]
  have hfinal : (st'.closed now.wall).final = true := rfl
  rw [Session.closedSteps, settling_steps, List.filter_append, hcut.filter_done, List.filter_cons, hfinal, if_pos rfl, hrest]

theorem Logged.settling {c : Chapter} (h : m.Logged chapters n c.opening) (now : Moment) {st' : StepStatus}
    (hi : st'.stepId = st.stepId) :
    (m.settling now done st' (post.map StepStatus.ofStep)).Logged (chapters ++ [c]) n [] where
  kinds := by
    rw [kinds_settling, h.kinds]
    simp [Chapter.kinds]
  length := by
    rw [hat.closedSteps_settling, List.length_append, List.length_append, h.length, hat.closedSteps]
    rfl
  names := by
    rw [hat.names_replace (settling_steps now done st' _ m) hi]
    exact h.names
  started := by
    rw [said_started_settling]
    exact h.started
  finished := by
    rw [said_finished_settling, h.finished, hat.closedSteps_settling, hat.closedSteps, List.map_append]
    rfl

theorem Logged.attempting (h : m.Logged chapters n tail) (hn : n = done.length) (now : Moment) :
    (m.attempting now step 1 done st (post.map StepStatus.ofStep)).Logged chapters (n + 1) (tail ++ [.stepStarted]) where
  kinds := by
    simp [Monitor.attempting, h.kinds]
  length := by
    rw [hat.closedSteps_replace (s := (m.attempting now step 1 done st (post.map StepStatus.ofStep)).session) rfl
      hat.isOpen.final]
    exact h.length
  names := by
    rw [hat.names_replace (s := (m.attempting now step 1 done st (post.map StepStatus.ofStep)).session) rfl rfl]
    exact h.names
  started := by
    have hi : m.plan.steps[n]? = some step := hn ▸ hat.step_eq
    have hs := said_append .stepStarted m.events [⟨now, .stepStarted, startedData step⟩]
    refine hs.trans ?_
    show _ = (m.plan.steps.take (n + 1)).map startedData
    rw [h.started, List.take_add_one, hi, List.map_append]
    rfl
  finished := by
    have hs := said_append .stepFinished m.events [⟨now, .stepStarted, startedData step⟩]
    refine (hs.trans (List.append_nil _)).trans ?_
    rw [h.finished, hat.closedSteps_replace
      (s := (m.attempting now step 1 done st (post.map StepStatus.ofStep)).session) rfl hat.isOpen.final]

end

theorem Logged.congr (h : m.Logged chapters n tail) (he : m'.events = m.events) (hp : m'.plan = m.plan)
    (hs : m'.session.steps = m.session.steps) : m'.Logged chapters n tail := by
  have hsame := h.append [] (he.trans (List.append_nil _).symm) hp (by rw [Session.closedSteps, hs]; rfl)
    (by rw [Session.names, hs]; rfl) (by simp)
  rwa [List.map_nil, List.append_nil] at hsame

theorem Logged.tells (h : m.Logged chapters n tail) (m' : Monitor) {e : Emission} (he : m'.events = m.events ++ [e])
    (hp : m'.plan = m.plan) (hs : m'.session.steps = m.session.steps)
    (hk : e.kind ≠ .stepStarted ∧ e.kind ≠ .stepFinished) : m'.Logged chapters n (tail ++ [e.kind]) :=
  h.append [e] he hp (by rw [Session.closedSteps, hs]; rfl) (by rw [Session.names, hs]; rfl) (by simpa using hk)

end

/-! ## The log in each phase -/

/-- A chapter is open, in which the run has been stopped or not. -/
def Opens (n : Nat) (stopping : Bool) (m : Monitor) : Prop :=
  ∃ (chapters : List Chapter) (c : Chapter), n = chapters.length + 1 ∧ (∀ c ∈ chapters, c.IsCalm) ∧ c.stopping = stopping ∧
    c.faulted = false ∧ m.Logged chapters n c.opening

/-- Every step has been told of, so that only the end of the session is left to tell. -/
structure Told (m : Monitor) (chapters : List Chapter) (parked : Bool) : Prop where
  kinds : m.events.map (·.kind) = .sessionStarted :: (chapters.flatMap Chapter.kinds ++
    ((if parked then [.sessionPaused] else []) ++ unexecuted (m.plan.steps.length - chapters.length)))
  length : chapters.length ≤ m.plan.steps.length
  calm : ∀ c ∈ chapters.dropLast, c.IsCalm
  parked : parked = true → m.control.stopped = true
  names : m.session.names = m.plan.steps.map (·.id)
  started : said .stepStarted m.events = (m.plan.steps.take chapters.length).map startedData
  finished : said .stepFinished m.events = m.session.steps.map stepFinishedData
  settled : ∀ st ∈ m.session.steps, st.isTerminal = true

/-- What holds of the log in a phase when `n` steps have been started. -/
def LogPhase (n : Nat) (m : Monitor) : Phase → Prop
  | .ready => m.events = [] ∧ n = 0
  | .parked i _ => i = n ∧ n < m.plan.steps.length ∧ ∃ chapters, n = chapters.length ∧ (∀ c ∈ chapters, c.IsCalm) ∧
      m.Logged chapters n [.sessionPaused]
  | .inFlight _ _ | .backingOff _ _ => m.Opens n false
  | .inGrace _ _ _ => m.control.stopped = true ∧ m.Opens n true
  | .closing => ∃ chapters parked, n = chapters.length ∧ m.Told chapters parked
  | .finished => m.session.isTerminal = true ∧ ∃ es t chapters parked, n = chapters.length ∧
      m.events = es ++ [⟨t, .sessionFinished, finishedData m.session⟩] ∧ { m with events := es }.Told chapters parked
  | .raised _ => False

def LogInv (n : Nat) (m : Monitor) : Prop := m.LogPhase n m.phase

theorem LogInv.inPhase {n : Nat} {m : Monitor} {ph : Phase} (h : m.LogInv n) (hph : m.phase = ph) : m.LogPhase n ph :=
  hph ▸ h

/-- The log behind settled steps. Unless there was a stop, nothing has ended the run. -/
def LogBehind (n : Nat) (m : Monitor) : Prop :=
  ∃ chapters, n = chapters.length ∧ (∀ c ∈ chapters.dropLast, c.IsCalm) ∧
    (m.control.stopped = false → ∀ c ∈ chapters, c.IsCalm) ∧ m.Logged chapters n []

/-- The log of a run that leaves the step loop. -/
def LogLeaves (n : Nat) (m : Monitor) : Prop :=
  ∃ chapters parked, n = chapters.length ∧ (∀ c ∈ chapters.dropLast, c.IsCalm) ∧
    (parked = true → m.control.stopped = true) ∧ m.Logged chapters n (if parked then [.sessionPaused] else [])

def Runs (i : Nat) (m : Monitor) : Prop := ∃ st, m.session.steps[i]? = some st ∧ st.state = .running

def Grows (n n' : Nat) (m : Monitor) : Prop := n' = n ∨ n' = n + 1 ∧ m.Runs n

def LogLands (n : Nat) : Except Halt (Monitor × Next) → Prop
  | .ok (m, .wait) => ∃ n', m.LogInv n' ∧ m.Grows n n'
  | .ok (m, .leave) => m.LogLeaves n
  | .error h => n ≤ h.monitor.plan.steps.length ∧ ∃ b, h.monitor.Opens n b

/-! ## Moves keep the log -/

section
variable {m m' : Monitor} {n : Nat} {b : Bool} {step : Step} {post : List Step} {done : List StepStatus} {st t : StepStatus}

theorem LogBehind.leaves (h : m.LogBehind n) : m.LogLeaves n := by
  obtain ⟨chapters, hn, hlast, _, hlog⟩ := h
  exact ⟨chapters, false, hn, hlast, nofun, hlog⟩

theorem Opens.congr (h : m.Opens n b) (he : m'.events = m.events) (hp : m'.plan = m.plan)
    (hs : m'.session.steps = m.session.steps) : m'.Opens n b := by
  obtain ⟨chapters, c, hn, hcalm, hb, hf, hlog⟩ := h
  exact ⟨chapters, c, hn, hcalm, hb, hf, hlog.congr he hp hs⟩

theorem stopping_events (now : Moment) (m : Monitor) : (m.stopping now).events = m.events := by
  unfold stopping; split <;> rfl

theorem stopping_steps (now : Moment) (m : Monitor) : (m.stopping now).session.steps = m.session.steps := by
  unfold stopping; split <;> rfl

theorem LogLeaves.stopping (h : m.LogLeaves n) (now : Moment) : (m.stopping now).LogLeaves n := by
  obtain ⟨chapters, parked, hn, hlast, hstop, hlog⟩ := h
  refine ⟨chapters, parked, hn, hlast, ?_, hlog.congr (stopping_events now m) (stopping_plan now m) (stopping_steps now m)⟩
  rw [stopping_control]
  exact hstop

theorem Opens.length_eq (h : m.Opens n b) (hat : m.At step post done st) : n = done.length + 1 := by
  obtain ⟨chapters, c, hn, _, _, _, hlog⟩ := h
  rw [hn, hlog.length, hat.closedSteps]

theorem At.lt_length (hat : m.At step post done st) : done.length < m.plan.steps.length := by
  have hi := hat.step_eq
  exact (List.getElem?_eq_some_iff.mp hi).1

theorem Opens.replace (h : m.Opens n b) (hat : m.At step post done st) (he : m'.events = m.events) (hp : m'.plan = m.plan)
    (hs : m'.session.steps = done ++ t :: post.map StepStatus.ofStep) (hf : t.final = false) (hi : t.stepId = st.stepId) :
    m'.Opens n b := by
  obtain ⟨chapters, c, hn, hcalm, hb, hfault, hlog⟩ := h
  have hsame := hlog.append [] (he.trans (List.append_nil _).symm) hp (hat.closedSteps_replace hs hf)
    (hat.names_replace hs hi) (by simp)
  rw [List.map_nil, List.append_nil] at hsame
  exact ⟨chapters, c, hn, hcalm, hb, hfault, hsame⟩

theorem Opens.settling (h : m.Opens n b) (hb : b = true → m.control.stopped = true) (hat : m.At step post done st)
    (now : Moment) (hi : t.stepId = st.stepId) : (m.settling now done t (post.map StepStatus.ofStep)).LogBehind n := by
  obtain ⟨chapters, c, hn, hcalm, hstop, hfault, hlog⟩ := h
  refine ⟨chapters ++ [c], by simp [hn], ?_, ?_, hlog.settling hat now hi⟩
  · simpa using hcalm
  · intro hst c' hc'
    rcases List.mem_append.mp hc' with hc' | hc'
    · exact hcalm c' hc'
    · rw [List.mem_singleton.mp hc']
      refine ⟨?_, hfault⟩
      cases b with
      | false => exact hstop
      | true => cases (hb rfl).symm.trans hst

theorem attempting_runs (now : Moment) (step : Step) (number : Nat) (done rest : List StepStatus) (st : StepStatus)
    (m : Monitor) : (m.attempting now step number done st rest).Runs done.length := by
  let line := attemptLine number (1 + step.policy.retries) (step.attempt number).2
  refine ⟨st.begun now.wall number line, ?_, rfl⟩
  simp [attempting, withSteps, line]

theorem Logged.begins {chapters : List Chapter} {tail : List EventKind} (h : m.Logged chapters n tail)
    (hn : n = chapters.length) (hcalm : ∀ c ∈ chapters, c.IsCalm) (hat : m.At step post done st) (now : Moment) {c : Chapter}
    (hc : c.IsCalm) (ho : tail ++ [.stepStarted] = c.opening) :
    LogLands n (.ok (m.attempting now step 1 done st (post.map StepStatus.ofStep), .wait)) := by
  have hl : n = done.length := by rw [hn, h.length, hat.closedSteps]
  have hlog := h.attempting hat hl now
  rw [ho] at hlog
  exact ⟨n + 1, ⟨chapters, c, by rw [hn], hcalm, hc.1, hc.2, hlog⟩, .inr ⟨rfl, hl ▸ attempting_runs ..⟩⟩

theorem LogBehind.enters {now : Moment} {r : Monitor × Next} (h : m.LogBehind n) (hb : m.Before post done)
    (he : Enters now m done post r) : LogLands n (.ok r) := by
  cases he with
  | past => exact h.leaves
  | stopped hst => exact h.leaves.stopping now
  | @paused step post hst hpa =>
    obtain ⟨chapters, hn, _, hcalm, hlog⟩ := h
    obtain ⟨pre, hpost, hcut⟩ := hb
    have hl : done.length = n := by rw [hn, hlog.length, hcut.closedSteps]
    have hlt : done.length < m.plan.steps.length := by
      rw [hpost, ← hcut.settled.length_eq]
      simp
    refine ⟨n, ⟨hl, hl ▸ hlt, chapters, hn, hcalm hst, ?_⟩, .inl rfl⟩
    exact hlog.tells (m.pausing now done.length) rfl rfl rfl (by simp)
  | begun hst hpa =>
    obtain ⟨chapters, hn, _, hcalm, hlog⟩ := h
    exact hlog.begins hn (hcalm hst) hb now (c := {}) ⟨rfl, rfl⟩ rfl

theorem Opens.advances {now : Moment} {r : Monitor × Next} (h : m.Opens n b) (hb : b = true → m.control.stopped = true)
    (hat : m.At step post done st) (hi : t.stepId = st.stepId) (hn : Advances now m post done t r) : LogLands n (.ok r) :=
  (h.settling hb hat now hi).enters hn.before hn.enters

theorem Opens.givesUp {now : Moment} {r : Monitor × Next} (h : m.Opens n b) (hb : b = true → m.control.stopped = true)
    (hat : m.At step post done st) (hn : GivesUp now m post done st r) : LogLands n (.ok r) := by
  cases hn with
  | aborts => exact (h.settling hb hat now rfl).leaves
  | goesOn _ hn => exact h.advances hb hat rfl hn

theorem LogInv.opens {a : Attempt} {o : Outcome} (h : m.LogInv n) (hs : m.Sees a o) :
    ∃ b, m.Opens n b ∧ (b = true → m.control.stopped = true) := by
  rcases hs with hph | ⟨expired, hph⟩
  · exact ⟨false, h.inPhase hph, nofun⟩
  · have hg := h.inPhase hph
    exact ⟨true, hg.2, fun _ => hg.1⟩

theorem Opens.fails {now : Moment} {a : Attempt} {e : StepFault} {r : Except Halt (Monitor × Next)} (h : m.Opens n b)
    (hb : b = true → m.control.stopped = true) (hat : m.At step post done st) (hn : Fails now m a step post done st e r) :
    LogLands n r := by
  have hopen := hat.isOpen.final
  have hfail : (m.failing done st (post.map StepStatus.ofStep) a e).Opens n b := h.replace hat rfl rfl rfl hopen rfl
  cases hn with
  | skipped _ hn => exact h.advances hb hat (t := st.faulted _ _ _) rfl hn
  | exhausted _ _ hn => exact hfail.givesUp hb (hat.failing a e) hn
  | undelayed _ _ _ _ => exact ⟨h.length_eq hat ▸ hat.lt_length, b, hfail⟩
  | @retrying delay _ _ hst _ =>
    obtain ⟨chapters, c, hn, hcalm, hstop, hfault, hlog⟩ := hfail
    have hnot : c.stopping = false := by
      cases b with
      | false => exact hstop
      | true => cases (hb rfl).symm.trans hst
    have hc : c.IsCalm := ⟨hnot, hfault⟩
    refine ⟨n, ⟨chapters, { c with retries := c.retries + 1 }, hn, hcalm, hnot, hfault, ?_⟩, .inl rfl⟩
    rw [hc.retry]
    exact hlog.tells ((m.failing done st (post.map StepStatus.ofStep) a e).backingOff now a step e delay) rfl rfl rfl (by simp)

/-- Every move of the step loop keeps the log. -/
theorem Turns.log {now : Moment} {r : Except Halt (Monitor × Next)} (ht : Turns now m r) (h : m.LogInv n) : LogLands n r := by
  cases ht with
  | idle _ => exact ⟨n, h, .inl rfl⟩
  | unparked hph hst =>
    obtain ⟨_, _, chapters, hn, hcalm, hlog⟩ := h.inPhase hph
    have hleaves : m.LogLeaves n := ⟨chapters, true, hn, fun c hc => hcalm c ((List.dropLast_sublist chapters).subset hc), fun _ => hst, hlog⟩
    exact hleaves.stopping now
  | resumed hph hst hi hat =>
    obtain ⟨_, _, chapters, hn, hcalm, hlog⟩ := h.inPhase hph
    obtain ⟨pre, hpost, hcut⟩ := hat
    have hres := hlog.tells (m.resuming now) rfl rfl rfl (by simp)
    exact hres.begins hn hcalm ⟨pre, hpost, hcut.of_state⟩ now (c := { paused := true }) ⟨rfl, rfl⟩ rfl
  | resumedPast hph _ hi =>
    obtain ⟨rfl, hlt, _⟩ := h.inPhase hph
    rw [List.getElem?_eq_getElem hlt] at hi
    cases hi
  | passed hs ht hr ho hn =>
    obtain ⟨b, hopen, hb⟩ := h.opens hs
    have hi := congrArg StepStatus.stepId (StepStatus.store_ok ho)
    exact hopen.advances hb ht.here (t := StepStatus.passed _ _) hi hn
  | unstored hs ht hr ho =>
    obtain ⟨b, hopen, hb⟩ := h.opens hs
    exact ⟨hopen.length_eq ht.here ▸ ht.here.lt_length, b, hopen⟩
  | lost hs ht hr =>
    obtain ⟨b, hopen, hb⟩ := h.opens hs
    exact ⟨hopen.length_eq ht.here ▸ ht.here.lt_length, b, hopen⟩
  | failed hs _ ht hr hn =>
    obtain ⟨b, hopen, hb⟩ := h.opens hs
    exact hopen.fails hb ht.here hn
  | @graced a step post done st hph hst ht hr =>
    obtain ⟨chapters, c, hn, hcalm, hstop, hfault, hlog⟩ := h.inPhase hph
    have hc : c.IsCalm := ⟨hstop, hfault⟩
    have hlog' := hlog.congr (stopping_events now m) (stopping_plan now m) (stopping_steps now m)
    have hstopped : (m.gracing now a).control.stopped = true := (congrArg Control.stopped (stopping_control now m)).trans hst
    refine ⟨n, ⟨hstopped, chapters, { c with stopping := true }, hn, hcalm, rfl, hfault, ?_⟩, .inl rfl⟩
    rw [hc.stop]
    exact hlog'.tells (m.gracing now a) rfl rfl rfl (by simp)
  | cancelled hph ht hr =>
    have hg := h.inPhase hph
    exact (hg.2.settling (fun _ => hg.1) ht.here now (t := StepStatus.faulted _ _ _ _) rfl).leaves
  | deserted hph hst ht hf hn =>
    have hopen : (m.stopping now).Opens n false :=
      Opens.congr (h.inPhase hph) (stopping_events now m) (stopping_plan now m) (stopping_steps now m)
    exact hopen.givesUp (nofun) (ht.here.stopping now) hn
  | @retried a step post done st hph hst ht hf =>
    -- only a first attempt tells of its start, so the chapter goes on as it was
    have hne : a.number + 1 ≠ 1 := by
      have := ht.number
      omega
    have hevents : (m.attempting now step (a.number + 1) done st (post.map StepStatus.ofStep)).events = m.events := by
      show m.events ++ (if a.number + 1 = 1 then _ else []) = m.events
      rw [if_neg hne, List.append_nil]
    have hfinal : (st.counted (a.number + 1)).final = false := by
      rw [StepStatus.counted, if_neg hne]
      exact ht.here.isOpen.final
    have hid : (st.counted (a.number + 1)).stepId = st.stepId := by rw [StepStatus.counted, if_neg hne]
    exact ⟨n, Opens.replace (h.inPhase hph) ht.here hevents rfl rfl hfinal hid, .inl rfl⟩

end

end Monitor

end BrowserPilot
