import BrowserPilot.Proofs.Monitor.Receiving

/-!
# Undisturbed runs

What a run does that nobody pauses, stops or fails is a recursion over its
steps, with one over the attempts at a step inside it. Every signal keeps what
the recursion says the whole run comes to, and brings its end nearer.
-/

namespace BrowserPilot

/-! ## The recursion -/

structure Verdict where
  state : StepState
  retries : Nat
  fallback : Option Nat
  deriving DecidableEq, Repr

/-- What a run asks for, in order, and what it records of its steps. -/
structure Report where
  requests : List Request
  verdicts : List Verdict
  deriving DecidableEq, Repr

/-- What the attempts at one step come to. -/
structure Trial where
  requests : List Request
  verdict : Verdict
  /-- How many primitives the run has called by then. -/
  called : Nat
  goesOn : Bool

/-- What the primitives end with, by the number of those called before, and the
delays between attempts. -/
structure Course where
  respond : Nat → Action → Outcome
  delay : Nat → StepFault → Amount

def Step.fallbackAt (s : Step) (k : Nat) : Option Nat :=
  if 2 ≤ k ∧ k - 2 < s.fallbacks.length then some (k - 2) else none

/-- The run from a step on: the steps after it run only if it lets them. -/
def Trial.followedBy (t : Trial) (post : List Step) (next : Nat → Report) : Report :=
  if t.goesOn then ⟨t.requests ++ (next t.called).requests, t.verdict :: (next t.called).verdicts⟩
  else ⟨t.requests, t.verdict :: post.map fun _ => ⟨.failed, 0, none⟩⟩

namespace Course

/-- The attempts at a step from attempt `k` on, if it may have `left` more after that. -/
def trial (c : Course) (aborts : Bool) (step : Step) (left k called : Nat) : Trial :=
  let a := (step.attempt k).1
  match c.respond called a with
  | .finished _ => ⟨[.perform a], ⟨.success, k - 1, step.fallbackAt k⟩, called + 1, true⟩
  | .raised (.sessionInit _) => ⟨[.perform a], ⟨.failed, k - 1, none⟩, called + 1, false⟩
  | .raised f =>
    if step.policy.ignoresErrors then ⟨[.perform a], ⟨.skipped, k - 1, none⟩, called + 1, true⟩
    else
      match left with
      | 0 => ⟨[.perform a], ⟨.failed, k - 1, none⟩, called + 1, !aborts⟩
      | left + 1 =>
        let t := c.trial aborts step left (k + 1) (called + 1)
        { t with requests := .perform a :: .sleep (c.delay k (f.asStepFault step.id)) :: t.requests }

def report (c : Course) (aborts : Bool) : List Step → Nat → Report
  | [], _ => ⟨[], []⟩
  | step :: post, called => (c.trial aborts step step.policy.retries 1 called).followedBy post (c.report aborts post)

end Course

/-! ## Runs that nobody disturbs -/

def StepStatus.verdict (st : StepStatus) : Verdict := ⟨st.state, st.retryCount, st.fallbackUsed⟩

def Session.verdicts (s : Session) : List Verdict := s.steps.map StepStatus.verdict

def Request.calls (l : List Request) : Nat := l.countP isPerform

def Phase.isUnstopped : Phase → Bool
  | .inGrace .. | .closing => false
  | _ => true

def Outcome.Fits (k : ActionKind) : Outcome → Prop
  | .finished (.image _) => k = .screenshot
  | .finished (.elements _) => k = .extract
  | .finished .nothing => k ≠ .screenshot ∧ k ≠ .extract
  | .raised _ => True

namespace Monitor

/-- Whether a signal leaves the run on its course: it neither pauses, stops nor
fails the run, and the primitive that is running ends as the course says. -/
def Keeps (c : Course) (m : Monitor) : Signal → Prop
  | .start | .timeUp | .turn | .closed => True
  | .outcome o => ∀ a, m.phase = .inFlight a none → o = c.respond (Request.calls m.asked - 1) a.action
  | .control _ | .stop | .fail _ => False

def Undisturbed (c : Course) (m : Monitor) : List (Moment × Signal) → Prop
  | [] => True
  | x :: signals => m.Keeps c x.2 ∧ (m.receive x.1 x.2).Undisturbed c signals

def awaited (c : Course) (m : Monitor) : Signal :=
  match m.phase with
  | .ready => .start
  | .inFlight a none => .outcome (c.respond (Request.calls m.asked - 1) a.action)
  | .backingOff _ false => .timeUp
  | _ => .turn

/-- The first `n` signals that the monitor waits for, the next at `clock 0`. -/
def served (c : Course) : Nat → (Nat → Moment) → Monitor → List (Moment × Signal)
  | 0, _, _ => []
  | n + 1, clock, m =>
    (clock 0, m.awaited c) :: served c n (fun i => clock (i + 1)) (m.receive (clock 0) (m.awaited c))

end Monitor

/-! ## What the course makes of an attempt -/

namespace Course

variable {c : Course} {aborts : Bool} {step : Step} {left k called : Nat}

theorem trial_finished {r : Result} (h : c.respond called (step.attempt k).1 = .finished r) :
    c.trial aborts step left k called =
      ⟨[.perform (step.attempt k).1], ⟨.success, k - 1, step.fallbackAt k⟩, called + 1, true⟩ := by
  unfold trial
  simp only [h]

theorem trial_lost {message : String} (h : c.respond called (step.attempt k).1 = .raised (.sessionInit message)) :
    c.trial aborts step left k called =
      ⟨[.perform (step.attempt k).1], ⟨.failed, k - 1, none⟩, called + 1, false⟩ := by
  unfold trial
  simp only [h]

theorem trial_asks (c : Course) (aborts : Bool) (step : Step) (left k called : Nat) :
    0 < (c.trial aborts step left k called).requests.length := by
  unfold trial
  simp only
  split
  · exact Nat.zero_lt_one
  · exact Nat.zero_lt_one
  · split
    · exact Nat.zero_lt_one
    · split <;> exact Nat.zero_lt_succ _

section
variable {f : Fault} (h : c.respond called (step.attempt k).1 = .raised f) (hf : ∀ message, f ≠ .sessionInit message)
include h hf

theorem trial_skipped (hi : step.policy.ignoresErrors = true) :
    c.trial aborts step left k called =
      ⟨[.perform (step.attempt k).1], ⟨.skipped, k - 1, none⟩, called + 1, true⟩ := by
  unfold trial
  cases f with
  | sessionInit message => exact absurd rfl (hf message)
  | _ => simp only [h, hi, if_true]

theorem trial_exhausted (hi : step.policy.ignoresErrors = false) :
    c.trial aborts step 0 k called =
      ⟨[.perform (step.attempt k).1], ⟨.failed, k - 1, none⟩, called + 1, !aborts⟩ := by
  unfold trial
  cases f with
  | sessionInit message => exact absurd rfl (hf message)
  | _ => simp only [h, hi, Bool.false_eq_true, if_false]

theorem trial_retried (hi : step.policy.ignoresErrors = false) :
    c.trial aborts step (left + 1) k called =
      { c.trial aborts step left (k + 1) (called + 1) with
        requests := .perform (step.attempt k).1 :: .sleep (c.delay k (f.asStepFault step.id)) ::
          (c.trial aborts step left (k + 1) (called + 1)).requests } := by
  conv => lhs; unfold trial
  cases f with
  | sessionInit message => exact absurd rfl (hf message)
  | _ => simp only [h, hi, Bool.false_eq_true, if_false]

end

end Course

theorem Step.attempt_fallbackAt (s : Step) (k : Nat) : (s.attempt k).2 = s.fallbackAt k := s.attempt_fallback k

theorem StepStatus.store_fits {k : ActionKind} {r : Result} (st : StepStatus) (h : Outcome.Fits k (.finished r)) :
    ∃ st', st.store k r = .ok st' := by
  cases r with
  | image bytes =>
    cases h
    exact ⟨_, rfl⟩
  | elements found =>
    cases h
    exact ⟨_, rfl⟩
  | nothing =>
    cases k with
    | screenshot => exact absurd rfl h.1
    | _ => exact ⟨st, rfl⟩

/-! ## What a monitor comes to -/

/-- The report of a run that has asked for some things and settled some steps already. -/
def Report.after (asked : List Request) (done : List StepStatus) (r : Report) : Report :=
  ⟨asked ++ r.requests, done.map StepStatus.verdict ++ r.verdicts⟩

theorem Trial.followedBy_after (t : Trial) (post : List Step) (next : Nat → Report) (before l : List Request)
    (done : List StepStatus) :
    (({ t with requests := l ++ t.requests } : Trial).followedBy post next).after before done =
      (t.followedBy post next).after (before ++ l) done := by
  unfold Trial.followedBy
  split <;> simp [Report.after]

namespace Monitor

/-- A running monitor in the step loop, with the steps `pre` settled. -/
structure Loop (p : Plan) (m : Monitor) (pre post : List Step) (done rest : List StepStatus) : Prop where
  plan : m.plan = p
  control : m.control = {}
  state : m.session.state = .running
  steps : p.steps = pre ++ post
  cut : m.session.Cut pre post done rest

/-- A monitor in the step loop from which attempt `k` at the step numbered `i`
makes the run come to a report, the requests `before` being made already. -/
structure Continues (c : Course) (p : Plan) (r : Report) (m : Monitor) (before : List Request) (i k : Nat) (step : Step)
    (st : StepStatus) : Prop where
  retries : k ≤ step.policy.retries + 1
  loop : ∃ pre post done, m.Loop p pre (step :: post) done (st :: post.map StepStatus.ofStep) ∧ i = done.length ∧
    r = ((c.trial p.abortsOnFailure step (step.policy.retries + 1 - k) k (Request.calls before)).followedBy post
      (c.report p.abortsOnFailure post)).after before done

structure InFlight (c : Course) (p : Plan) (r : Report) (m : Monitor) (a : Attempt) (before : List Request) (step : Step)
    (st : StepStatus) : Prop where
  continues : m.Continues c p r before a.index a.number step st
  running : st.state = .running
  count : st.retryCount + 1 = a.number
  attempt : (a.action, a.fallback) = step.attempt a.number
  asked : m.asked = before ++ [.perform a.action]

/-- What holds in a phase of a monitor whose run comes to a report. -/
def Expects (c : Course) (p : Plan) (r : Report) (m : Monitor) : Phase → Prop
  | .ready => m.isFinished = false ∧ m.asked = [] ∧ m.Loop p [] p.steps [] (p.steps.map StepStatus.ofStep) ∧
      r = c.report p.abortsOnFailure p.steps 0
  | .inFlight a o => ∃ before step st, m.InFlight c p r a before step st ∧
      ∀ x, o = some x → x = c.respond (Request.calls before) a.action
  | .backingOff a _ => ∃ step st, m.Continues c p r m.asked a.index (a.number + 1) step st ∧ st.state = .failed ∧
      st.retryCount + 1 = a.number
  | .finished => m.asked = r.requests ∧ m.session.verdicts = r.verdicts
  | _ => False

structure Unstopped (m : Monitor) : Prop where
  phase : m.phase.isUnstopped = true
  going : m.isOver = false → m.control.stopped = false

def waiting (r : Report) (m : Monitor) : Nat :=
  2 * (r.requests.length - m.requests.length) +
    match m.phase with
    | .ready | .inFlight _ (some _) | .backingOff _ true => 1
    | .inFlight _ none | .backingOff _ false => 2
    | _ => 0

/-- A monitor that comes to a report with no more than `q` requests left to wait for. -/
structure Reaches (c : Course) (p : Plan) (r : Report) (q : Nat) (m : Monitor) : Prop where
  expects : m.Expects c p r m.phase
  waiting : m.waiting r ≤ 2 * (r.requests.length - q)

section
variable {c : Course} {p : Plan} {r : Report} {m : Monitor} {i : Nat} {pre post : List Step}
  {done rest : List StepStatus}

/-! ### The end of the step loop -/

def lostVerdict (st : StepStatus) : Verdict := ⟨.failed, st.retryCount, st.fallbackUsed⟩

theorem leave_reaches (now : Moment) (h : m.Loop p pre post done rest) (hr : m.asked = r.requests)
    (hv : r.verdicts = done.map StepStatus.verdict ++ rest.map lostVerdict) (q : Nat) :
    (afterMove now (.ok (m, .leave))).Reaches c p r q := by
  have hst : m.control.stopped = false := by rw [h.control]
  obtain ⟨hphase, hreq, hsteps⟩ := ending_effect now h.cut.steps
  simp only [hst, Bool.false_eq_true, if_false, List.append_nil] at hphase hreq
  have he : afterMove now (.ok (m, .leave)) = m.ending now done rest := by
    simp only [afterMove, finish_eq h.cut.steps h.cut.terminal h.cut.pending, orRaised]
  have hlen : m.requests.length = r.requests.length := by rw [← hr, asked, List.length_map]
  rw [he]
  refine ⟨?_, ?_⟩
  · rw [hphase]
    refine ⟨?_, ?_⟩
    · rw [asked, hreq]
      exact hr
    · rw [Session.verdicts, hsteps, hv, List.map_append, List.map_map]
      rfl
  · rw [waiting, hphase, hreq, hlen]
    simp

theorem halt_reaches (now : Moment) (h : m.Loop p pre post done rest) (hr : m.asked = r.requests)
    (hv : r.verdicts = done.map StepStatus.verdict ++ rest.map lostVerdict) (q : Nat) (f : Fault) :
    (afterMove now (.error ⟨m, f⟩)).Reaches c p r q := by
  let m₀ := m.emit now .error [("error", .str f.message)]
  let w := m₀.winding now (reasonOf f) done rest
  let failed := rest.map (StepStatus.abandoned now.wall (reasonOf f))
  have hw := winding_eq now (reasonOf f) rest done m₀ h.cut.steps
  -- the halt fails what is left, and the run leaves the loop with nothing to settle
  have hcut : w.session.Cut p.steps [] (done ++ failed) [] :=
    h.steps ▸ Session.Cut.winding (m := m₀) now (reasonOf f) h.cut
  have hloop : w.Loop p p.steps [] (done ++ failed) [] := by
    refine ⟨(congrArg Monitor.plan hw).trans h.plan, (congrArg Monitor.control hw).trans h.control, ?_, by simp, hcut⟩
    exact (congrArg (·.session.state) hw).trans h.state
  have hreq : w.asked = r.requests := (congrArg Monitor.asked hw).trans hr
  have he : afterMove now (.error ⟨m, f⟩) = afterMove now (.ok (w, .leave)) := by
    simp only [afterMove, recover_eq h.cut.steps h.cut.terminal h.cut.pending now f, Except.bind, w, m₀]
  rw [he]
  refine leave_reaches now hloop hreq ?_ q
  rw [hv, List.map_append, List.map_map, List.map_nil, List.append_nil]
  rfl

/-! ### Attempts -/

theorem Continues.length_lt {before : List Request} {k : Nat} {step : Step} {st : StepStatus}
    (h : m.Continues c p r before i k step st) : before.length < r.requests.length := by
  obtain ⟨_, pre, post, done, _, _, rfl⟩ := h
  have hpos := c.trial_asks p.abortsOnFailure step (step.policy.retries + 1 - k) k (Request.calls before)
  simp only [Report.after, Trial.followedBy]
  split
  · simp only [List.length_append]
    omega
  · simp only [List.length_append]
    omega

theorem Continues.inPhase {before : List Request} {k : Nat} {step : Step} {st : StepStatus}
    (h : m.Continues c p r before i k step st) (phase : Phase) : { m with phase }.Continues c p r before i k step st := by
  obtain ⟨hle, pre, post, done, hl, hi, hr⟩ := h
  exact ⟨hle, pre, post, done, ⟨hl.plan, hl.control, hl.state, hl.steps, hl.cut⟩, hi, hr⟩

theorem begin_reaches (now : Moment) {k : Nat} {step : Step} {st : StepStatus}
    (h : m.Continues c p r m.asked i k step st) (hcan : st.state.canBecome .running = true)
    (hk : (st.counted k).retryCount + 1 = k) :
    (afterMove now (m.beginAttempt now i step k)).Reaches c p r m.asked.length := by
  have hlt := h.length_lt
  obtain ⟨hle, pre, post, done, hloop, rfl, hr⟩ := h
  have hopen := (List.forall₂_cons.mp hloop.cut.unsettled).1
  have hlen : m.asked.length = m.requests.length := List.length_map _
  let st' := st.begun now.wall k (attemptLine k (1 + step.policy.retries) (step.attempt k).2)
  rw [beginAttempt_eq hloop.cut.steps now step k hopen.final hcan]
  refine ⟨⟨m.asked, step, st', ⟨⟨hle, pre, post, done, ⟨hloop.plan, hloop.control, hloop.state, hloop.steps, ?_⟩, rfl, hr⟩,
    rfl, hk, rfl, ?_⟩, fun x hx => nomatch hx⟩, ?_⟩
  · exact hloop.cut.replace (hopen.begun now.wall _ (by omega))
  · exact List.map_append
  · simp only [afterMove, waiting, attempting, List.length_append, List.length_cons, List.length_nil]
    omega

theorem enter_reaches (now : Moment) (h : m.Loop p pre post done (post.map StepStatus.ofStep))
    (hr : r = (c.report p.abortsOnFailure post (Request.calls m.asked)).after m.asked done) :
    (afterMove now (m.enterStep now done.length)).Reaches c p r m.asked.length := by
  have hi : m.plan.steps[done.length]? = post.head? := h.cut.step_eq (h.plan ▸ h.steps)
  cases post with
  | nil =>
    rw [enterStep_none now hi]
    refine leave_reaches now h ?_ ?_ _
    · simp [hr, Report.after, Course.report]
    · simp [hr, Report.after, Course.report]
  | cons step post =>
    have hst : m.control.stopped = false := by rw [h.control]
    have hpa : m.control.paused = false := by rw [h.control]
    rw [enterStep_free hi now hst hpa]
    exact begin_reaches now ⟨by omega, pre, post, done, h, rfl, hr⟩ rfl rfl

/-! ### Outcomes -/

theorem Loop.replace {step : Step} {st st' : StepStatus} (h : m.Loop p pre (step :: post) done (st :: rest))
    (hst : st'.IsOpenFor step) : (m.withSteps (done ++ st' :: rest)).Loop p pre (step :: post) done (st' :: rest) :=
  ⟨h.plan, h.control, h.state, h.steps, h.cut.replace hst⟩

theorem Loop.settle {step : Step} {st st' : StepStatus} (h : m.Loop p pre (step :: post) done (st :: rest)) (now : Moment)
    (hst : (st'.closed now.wall).IsSettledFor step) :
    (m.settling now done st' rest).Loop p (pre ++ [step]) post (done ++ [st'.closed now.wall]) rest := by
  refine ⟨h.plan, h.control, ?_, by simp [h.steps], h.cut.settling now hst⟩
  rw [settling_session]
  exact h.state

section
variable {step : Step} {st st' : StepStatus} {before : List Request} {t : Trial}
  (h : m.Loop p pre (step :: post) done (st :: post.map StepStatus.ofStep)) (now : Moment)
  (hst : (st'.closed now.wall).IsSettledFor step)
  (hr : r = (t.followedBy post (c.report p.abortsOnFailure post)).after before done) (hask : before ++ t.requests = m.asked)
  (hv : t.verdict = (st'.closed now.wall).verdict)
include h hst hr hask hv

theorem next_reaches (hgo : t.goesOn = true) (hcall : t.called = Request.calls m.asked) :
    (afterMove now ((m.settling now done st' (post.map StepStatus.ofStep)).enterStep now (done.length + 1))).Reaches
      c p r m.asked.length := by
  have hlen : done.length + 1 = (done ++ [st'.closed now.wall]).length := by simp
  rw [hlen]
  refine enter_reaches now (h.settle now hst) ?_
  change r = (c.report p.abortsOnFailure post (Request.calls m.asked)).after m.asked _
  rw [hr, Trial.followedBy, if_pos hgo, ← hask, ← hcall.trans (congrArg _ hask.symm)]
  simp [Report.after, hv]

theorem abort_reaches (hgo : t.goesOn = false) (q : Nat) :
    (afterMove now (.ok (m.settling now done st' (post.map StepStatus.ofStep), .leave))).Reaches c p r q := by
  have hgo : ¬t.goesOn = true := by simp [hgo]
  rw [Trial.followedBy, if_neg hgo] at hr
  refine leave_reaches now (h.settle now hst) ?_ ?_ q
  · rw [hr]
    exact hask.symm
  · rw [hr, Report.after, hv, List.map_append, List.append_assoc, List.map_map]
    rfl

end

/-- Between two attempts the report has the delay in front of what it had. -/
theorem backingOff_reaches (now : Moment) {a : Attempt} {step : Step} {st : StepStatus} {e : StepFault}
    (h : m.Loop p pre (step :: post) done (st :: post.map StepStatus.ofStep)) (ha : a.index = done.length)
    (hst : st.state = .failed) (hcount : st.retryCount + 1 = a.number) (hle : a.number ≤ step.policy.retries)
    (hr : r = ((c.trial p.abortsOnFailure step (step.policy.retries + 1 - (a.number + 1)) (a.number + 1)
      (Request.calls m.asked)).followedBy post (c.report p.abortsOnFailure post)).after
        (m.asked ++ [.sleep (c.delay a.number e)]) done) :
    (m.backingOff now a step e (c.delay a.number e)).Reaches c p r m.asked.length := by
  let m' := m.backingOff now a step e (c.delay a.number e)
  have hask : m'.asked = m.asked ++ [.sleep (c.delay a.number e)] := List.map_append
  have hcalls : Request.calls m'.asked = Request.calls m.asked := by
    rw [hask]
    simp [Request.calls, Request.isPerform]
  have hcont : m'.Continues c p r m'.asked a.index (a.number + 1) step st := by
    refine ⟨by omega, pre, post, done, ⟨h.plan, h.control, h.state, h.steps, h.cut⟩, ha, ?_⟩
    rw [hcalls, hask]
    exact hr
  have hlen : m'.requests.length = m.asked.length + 1 := by simp [m', backingOff, asked]
  have hlt := hcont.length_lt
  rw [hask, List.length_append, List.length_singleton] at hlt
  refine ⟨⟨step, st, hcont, hst, hcount⟩, ?_⟩
  change 2 * (r.requests.length - m'.requests.length) + 2 ≤ _
  omega

section
variable {a : Attempt} {before : List Request} {step : Step} {st : StepStatus} (h : m.InFlight c p r a before step st)
  (now : Moment)
include h

theorem InFlight.calls : Request.calls before + 1 = Request.calls m.asked := by
  simp [h.asked, Request.calls, Request.isPerform]

theorem InFlight.action : (step.attempt a.number).1 = a.action := congrArg Prod.fst h.attempt.symm

theorem InFlight.fallback : step.fallbackAt a.number = a.fallback := by
  rw [← step.attempt_fallbackAt, ← h.attempt]

theorem InFlight.retryCount : a.number - 1 = st.retryCount := by
  have := h.count
  omega

theorem pass_reaches {res : Result} (hres : c.respond (Request.calls before) a.action = .finished res)
    (hfit : Outcome.Fits a.action.kind (.finished res)) :
    (afterMove now (m.passAttempt now a res)).Reaches c p r m.asked.length := by
  obtain ⟨hle, pre, post, done, hloop, ha, hr⟩ := h.continues
  have hopen := (List.forall₂_cons.mp hloop.cut.unsettled).1
  obtain ⟨st', hstore⟩ := st.store_fits hfit
  have hset := hopen.closed_passed now.wall hstore fun k (hk : a.fallback = some k) =>
    Step.attempt_fallback_lt ((congrArg Prod.snd h.attempt).symm.trans hk)
  rw [← h.action] at hres
  rw [Course.trial_finished hres, h.fallback, h.retryCount, h.action] at hr
  rw [passAttempt_eq hloop.cut.steps hopen.final h.running now a ha hstore]
  refine next_reaches hloop now hset hr h.asked.symm ?_ rfl h.calls
  rw [StepStatus.store_ok hstore]
  rfl

theorem lost_reaches {message : String}
    (hres : c.respond (Request.calls before) a.action = .raised (.sessionInit message)) (q : Nat) :
    (afterMove now (.error ⟨m, .sessionInit message⟩)).Reaches c p r q := by
  obtain ⟨hle, pre, post, done, hloop, ha, hr⟩ := h.continues
  have hopen := (List.forall₂_cons.mp hloop.cut.unsettled).1
  rw [← h.action] at hres
  rw [Course.trial_lost hres, h.retryCount, h.action] at hr
  refine halt_reaches now hloop ?_ ?_ q _
  · rw [hr]
    exact h.asked
  · rw [hr]
    simp only [Report.after, Trial.followedBy, Bool.false_eq_true, if_false, List.map_cons, List.map_map, lostVerdict,
      hopen.fallback]
    rfl

variable {f : Fault} (hres : c.respond (Request.calls before) a.action = .raised f)
  (hf : ∀ message, f ≠ .sessionInit message)
include hres hf

theorem fail_reaches (hdelay : ∀ k e, p.delay k e = .ok (c.delay k e)) :
    (afterMove now (m.failAttempt now a step (f.asStepFault step.id))).Reaches c p r m.asked.length := by
  obtain ⟨hle, pre, post, done, hloop, ha, hr⟩ := h.continues
  have hopen := (List.forall₂_cons.mp hloop.cut.unsettled).1
  let e := f.asStepFault step.id
  have hst : m.control.stopped = false := by rw [hloop.control]
  rw [← h.action] at hres
  cases hi : step.policy.ignoresErrors with
  | true =>
    rw [Course.trial_skipped hres hf hi, h.retryCount, h.action] at hr
    rw [failAttempt_ignored hloop.cut.steps hopen.final h.running now a ha hi]
    refine next_reaches hloop now (hopen.closed_faulted now.wall (.inr rfl) _ _) hr h.asked.symm ?_ rfl h.calls
    exact congrArg (Verdict.mk _ _) hopen.fallback.symm
  | false =>
    let st' := st.faulted .failed e.message (failureLine a e)
    have hloop' : (m.failing done st (post.map StepStatus.ofStep) a e).Loop p pre (step :: post) done
        (st' :: post.map StepStatus.ofStep) := hloop.replace (hopen.faulted _ _)
    have hset := hopen.closed_faulted now.wall (.inl rfl) e.message (failureLine a e)
    have hv : (⟨.failed, st.retryCount, none⟩ : Verdict) = (st'.closed now.wall).verdict :=
      congrArg (Verdict.mk _ _) hopen.fallback.symm
    rw [failAttempt_eq hloop.cut.steps hopen.final h.running now a ha hi, hst, Bool.not_false, Bool.and_true]
    by_cases hlt : a.number < 1 + step.policy.retries
    · -- the recursion counts down what is left where the run counts up
      have hleft : step.policy.retries + 1 - a.number = (step.policy.retries + 1 - (a.number + 1)) + 1 := by omega
      rw [hleft, Course.trial_retried hres hf hi, h.action, h.calls] at hr
      rw [if_pos (by simpa using hlt), hloop.plan, hdelay]
      have hask : m.asked ++ [.sleep (c.delay a.number e)] = before ++ [.perform a.action, .sleep (c.delay a.number e)] := by
        simp [h.asked]
      refine backingOff_reaches (m := m.failing done st _ a e) now hloop' ha rfl h.count (by omega) ?_
      change r = Report.after (m.asked ++ _) done _
      rw [hr, hask]
      exact Trial.followedBy_after _ _ _ before [_, _] done
    · have hzero : step.policy.retries + 1 - a.number = 0 := by omega
      rw [hzero, Course.trial_exhausted hres hf hi, h.retryCount, h.action] at hr
      rw [if_neg (by simpa using hlt), giveUp_eq hloop'.cut.steps now rfl]
      cases hab : p.abortsOnFailure with
      | true =>
        rw [if_pos (by rw [hloop'.plan, hab])]
        exact abort_reaches hloop' now hset hr h.asked.symm hv (by simp [hab]) _
      | false =>
        rw [if_neg (by rw [hloop'.plan, hab]; decide)]
        exact next_reaches hloop' now hset hr h.asked.symm hv (by simp [hab]) h.calls

end

theorem settle_reaches (now : Moment) {a : Attempt} {before : List Request} {step : Step} {st : StepStatus} {o : Outcome}
    (h : m.InFlight c p r a before step st) (ho : o = c.respond (Request.calls before) a.action)
    (hfit : o.Fits a.action.kind) (hdelay : ∀ k e, p.delay k e = .ok (c.delay k e)) :
    (afterMove now (m.settleAttempt now a o)).Reaches c p r m.asked.length := by
  match o with
  | .finished res => exact pass_reaches h now ho.symm hfit
  | .raised f =>
    by_cases hf : ∃ message, f = .sessionInit message
    · obtain ⟨message, rfl⟩ := hf
      exact lost_reaches h now ho.symm _
    · have hf : ∀ message, f ≠ .sessionInit message := fun message he => hf ⟨message, he⟩
      obtain ⟨_, pre, post, done, hloop, ha, _⟩ := h.continues
      have hi : m.plan.steps[a.index]? = some step := ha ▸ hloop.cut.step_eq (hloop.plan ▸ hloop.steps)
      rw [settleAttempt_raised now hi hf]
      exact fail_reaches h now ho.symm hf hdelay

/-! ### Signals -/

theorem Unstopped.isReady_awaits (h : m.Unstopped) (hi : m.isReady = true) : m.awaited c = .turn ∧ m.isOver = false := by
  cases hphase : m.phase with
  | inFlight a o =>
    have hst := h.going (by simp only [isOver, hphase])
    cases o <;> simp_all [isReady, awaited, isOver]
  | backingOff a slept =>
    have hst := h.going (by simp only [isOver, hphase])
    simp_all [isReady, awaited, isOver]
  | parked i woken => simp [awaited, isOver, hphase]
  | inGrace a o expired | closing => cases hphase ▸ h.phase
  | ready | finished | raised f => simp [isReady, hphase] at hi

/-- Of the signals that leave a run on its course, only the one that the
monitor waits for has an effect. -/
theorem receive_idle (h : m.Unstopped) {s : Signal} (hk : m.Keeps c s) (now : Moment) :
    m.receive now s = m ∨ (s = m.awaited c ∧ m.isOver = false) := by
  refine (Classical.em (m.Misses s)).imp (receive_missed now) fun hn => ?_
  cases s with
  | start =>
    have hready := Classical.not_not.mp hn
    simp [awaited, isOver, hready]
  | turn =>
    obtain ⟨ha, ho⟩ := h.isReady_awaits (c := c) (Bool.not_eq_false _ ▸ hn)
    exact ⟨ha.symm, ho⟩
  | outcome o =>
    obtain ⟨ph, hh⟩ := Classical.not_not.mp hn
    generalize hphase : m.phase = ph₀ at hh
    cases hh with
    | outcome a o => simp [awaited, isOver, hphase, hk a hphase]
    | outcomeInGrace a expired o => cases hphase ▸ h.phase
  | timeUp =>
    obtain ⟨ph, hh⟩ := Classical.not_not.mp hn
    generalize hphase : m.phase = ph₀ at hh
    cases hh with
    | graceOver a o => cases hphase ▸ h.phase
    | delayOver a => simp [awaited, isOver, hphase]
  | closed =>
    have hclosing := Classical.not_not.mp hn
    cases hclosing ▸ h.phase
  | control _ | stop | fail _ => exact hk.elim

theorem Expects.unstopped (h : m.Expects c p r m.phase) : m.Unstopped := by
  cases hphase : m.phase with
  | ready =>
    rw [hphase] at h
    obtain ⟨_, _, hloop, _⟩ := h
    exact ⟨by rw [hphase]; rfl, fun _ => by rw [hloop.control]⟩
  | inFlight a o =>
    rw [hphase] at h
    obtain ⟨before, step, st, h, _⟩ := h
    obtain ⟨_, pre, post, done, hloop, _⟩ := h.continues
    exact ⟨by rw [hphase]; rfl, fun _ => by rw [hloop.control]⟩
  | backingOff a slept =>
    rw [hphase] at h
    obtain ⟨step, st, ⟨_, pre, post, done, hloop, _⟩, _⟩ := h
    exact ⟨by rw [hphase]; rfl, fun _ => by rw [hloop.control]⟩
  | finished => exact ⟨by rw [hphase]; rfl, fun ho => by simp [isOver, hphase] at ho⟩
  | parked i woken | inGrace a o expired | closing | raised f =>
    rw [hphase] at h
    exact h.elim

theorem start_reaches (h : m.Expects c p r .ready) (now : Moment) : (m.start now).Reaches c p r m.asked.length := by
  obtain ⟨_, hask, hloop, hr⟩ := h
  let m₀ := m.emit now .sessionStarted
    [("task_name", .str m.session.taskName), ("total_steps", .ofNat m.session.totalSteps)]
  have hloop₀ : m₀.Loop p [] p.steps [] (p.steps.map StepStatus.ofStep) :=
    ⟨hloop.plan, hloop.control, hloop.state, hloop.steps, hloop.cut⟩
  rw [start_eq now (hloop.plan ▸ hloop.cut.steps)]
  refine enter_reaches (m := m₀) now hloop₀ ?_
  rw [show m₀.asked = [] from hask]
  exact hr

theorem leaveBackoff_reaches {a : Attempt} {slept : Bool} (h : m.Expects c p r (.backingOff a slept)) (now : Moment) :
    (afterMove now (m.leaveBackoff now a)).Reaches c p r m.asked.length := by
  obtain ⟨step, st, hcont, hst, hcount⟩ := h
  obtain ⟨pre, post, done, hloop, ha, _⟩ := hcont.loop
  have hi : m.plan.steps[a.index]? = some step := ha ▸ hloop.cut.step_eq (hloop.plan ▸ hloop.steps)
  have hne : a.number + 1 ≠ 1 := by omega
  simp only [leaveBackoff, hloop.control, Bool.false_eq_true, if_false, hi]
  exact begin_reaches now hcont (by rw [hst]; rfl) (by simp only [StepStatus.counted, if_neg hne, hcount])

/-- A monitor that reaches the report is nearer its end than one that had more
to wait for than the answers to what it has asked. -/
theorem Reaches.nearer {m' : Monitor} (h : m'.Reaches c p r m.asked.length)
    (hlt : 2 * (r.requests.length - m.requests.length) < m.waiting r) :
    m'.Expects c p r m'.phase ∧ m'.waiting r < m.waiting r := by
  refine ⟨h.expects, Nat.lt_of_le_of_lt h.waiting ?_⟩
  rwa [show m.asked.length = m.requests.length from List.length_map _]

/-- **The signal that the monitor waits for** keeps its run on the course and
brings the end nearer. -/
theorem awaited_expects (h : m.Expects c p r m.phase) (hn : m.phase ≠ .finished)
    (hfit : ∀ n a, (c.respond n a).Fits a.kind) (hdelay : ∀ k e, p.delay k e = .ok (c.delay k e)) (now : Moment) :
    (m.receive now (m.awaited c)).Expects c p r (m.receive now (m.awaited c)).phase ∧
      (m.receive now (m.awaited c)).waiting r < m.waiting r := by
  cases hphase : m.phase with
  | ready =>
    rw [hphase] at h
    simp only [awaited, hphase, receive, h.1, Bool.false_eq_true, if_false]
    exact (start_reaches h now).nearer (by simp only [waiting, hphase]; omega)
  | inFlight a o =>
    rw [hphase] at h
    obtain ⟨before, step, st, h, ho⟩ := h
    cases o with
    | none =>
      -- the answer is kept for the next turn, by the number of the call that it answers
      have hcalls : Request.calls m.asked - 1 = Request.calls before := by
        rw [← h.calls]
        rfl
      simp only [awaited, hphase, receive]
      refine ⟨⟨before, step, st, ⟨h.continues.inPhase _, h.running, h.count, h.attempt, h.asked⟩, ?_⟩, ?_⟩
      · intro x hx
        rw [← Option.some.inj hx, hcalls]
      · simp only [waiting, hphase]
        omega
    | some x =>
      have hx := ho x rfl
      simp only [awaited, hphase, receive, takeTurn]
      exact (settle_reaches now h hx (hx ▸ hfit _ _) hdelay).nearer (by simp only [waiting, hphase]; omega)
  | backingOff a slept =>
    rw [hphase] at h
    cases slept with
    | false =>
      obtain ⟨step, st, hcont, hst, hcount⟩ := h
      simp only [awaited, hphase, receive]
      refine ⟨⟨step, st, hcont.inPhase _, hst, hcount⟩, ?_⟩
      simp only [waiting, hphase]
      omega
    | true =>
      simp only [awaited, hphase, receive, takeTurn, Bool.true_or, if_true]
      exact (leaveBackoff_reaches h now).nearer (by simp only [waiting, hphase]; omega)
  | finished => exact absurd hphase hn
  | parked i woken | inGrace a o expired | closing | raised f =>
    rw [hphase] at h
    exact h.elim

/-! ## Whole runs -/

theorem create_expects {now : Instant} {id taskName : String} (h : create now id taskName p {} = .ok m) :
    m.Expects c p (c.report p.abortsOnFailure p.steps 0) m.phase := by
  have hinv := create_inv h
  rw [create_eq h] at hinv ⊢
  exact ⟨rfl, rfl, ⟨rfl, rfl, rfl, rfl, hinv.phase.2.2⟩, rfl⟩

theorem awaited_keeps (c : Course) (m : Monitor) : m.Keeps c (m.awaited c) := by
  cases hphase : m.phase with
  | inFlight a o =>
    cases o with
    | none =>
      simp only [awaited, hphase, Keeps]
      intro a' ha
      cases ha
      rfl
    | some x => simp only [awaited, hphase, Keeps]
  | backingOff a slept => cases slept <;> simp only [awaited, hphase, Keeps]
  | _ => simp only [awaited, hphase, Keeps]

theorem served_undisturbed (c : Course) (n : Nat) : ∀ (clock : Nat → Moment) (m : Monitor),
    m.Undisturbed c (m.served c n clock) := by
  induction n with
  | zero => exact fun _ _ => trivial
  | succ n ih => exact fun clock m => ⟨awaited_keeps c m, ih _ _⟩

section
variable (hfit : ∀ n a, (c.respond n a).Fits a.kind) (hdelay : ∀ k e, p.delay k e = .ok (c.delay k e))
include hfit hdelay

theorem receive_expects (h : m.Expects c p r m.phase) {s : Signal} (hk : m.Keeps c s) (now : Moment) :
    (m.receive now s).Expects c p r (m.receive now s).phase := by
  rcases receive_idle h.unstopped hk now with he | ⟨rfl, hn⟩
  · rw [he]
    exact h
  · exact (awaited_expects h (fun hf => by simp [isOver, hf] at hn) hfit hdelay now).1

theorem receiveAll_expects (signals : List (Moment × Signal)) : ∀ {m : Monitor}, m.Expects c p r m.phase →
    m.Undisturbed c signals → (m.receiveAll signals).Expects c p r (m.receiveAll signals).phase := by
  induction signals with
  | nil => exact fun h _ => h
  | cons x signals ih => exact fun h hk => ih (receive_expects hfit hdelay h hk.1 x.1) hk.2

theorem served_finishes (n : Nat) : ∀ (clock : Nat → Moment) {m : Monitor}, m.Expects c p r m.phase →
    m.waiting r ≤ n → (m.receiveAll (m.served c n clock)).phase = .finished := by
  induction n with
  | zero =>
    intro clock m h hn
    cases hphase : m.phase with
    | finished => exact hphase
    | ready => simp [waiting, hphase] at hn
    | inFlight a o => cases o <;> simp [waiting, hphase] at hn
    | backingOff a slept => cases slept <;> simp [waiting, hphase] at hn
    | parked i woken | inGrace a o expired | closing | raised f =>
      rw [hphase] at h
      exact h.elim
  | succ n ih =>
    -- a run that is over waits for nothing; any other is one signal nearer to its end
    intro clock m h hn
    have hexp := receive_expects hfit hdelay h (awaited_keeps c m) (clock 0)
    have hle : (m.receive (clock 0) (m.awaited c)).waiting r ≤ n := by
      by_cases hfin : m.phase = .finished
      · have hzero : m.waiting r = 0 := by
          rw [hfin] at h
          have hlen := congrArg List.length h.1
          rw [asked, List.length_map] at hlen
          simp [waiting, hfin, hlen]
        rcases receive_idle h.unstopped (awaited_keeps c m) (clock 0) with he | ⟨_, hne⟩
        · rw [he]
          omega
        · simp [isOver, hfin] at hne
      · have hlt := (awaited_expects h hfin hfit hdelay (clock 0)).2
        omega
    exact ih _ hexp hle

end

/-- **An undisturbed run is the recursion over its steps.** It asks for what the
recursion says and records what the recursion says, in whatever order signals
come that leave it on its course, and it comes to its end. -/
theorem undisturbed_run {now : Instant} {id taskName : String} {plan : Plan} {m : Monitor}
    (hm : create now id taskName plan {} = .ok m) {c : Course} (hdelay : ∀ k e, plan.delay k e = .ok (c.delay k e))
    (hfit : ∀ n a, (c.respond n a).Fits a.kind) :
    let r := c.report plan.abortsOnFailure plan.steps 0
    (∀ signals, m.Undisturbed c signals → (m.receiveAll signals).phase = .finished →
      (m.receiveAll signals).asked = r.requests ∧ (m.receiveAll signals).session.verdicts = r.verdicts) ∧
      (∀ clock, ∃ n, m.Undisturbed c (m.served c n clock) ∧ (m.receiveAll (m.served c n clock)).phase = .finished) ∧
        ∀ step ∈ plan.steps, ∀ k : Nat, (step.attempt k).1.kind = step.kind := by
  have hexp := create_expects (c := c) hm
  refine ⟨?_, ?_, ?_⟩
  · intro signals hun hfin
    have h := receiveAll_expects hfit hdelay signals hexp hun
    rw [hfin] at h
    exact h
  · intro clock
    exact ⟨m.waiting _, served_undisturbed c _ clock m, served_finishes hfit hdelay _ clock hexp (Nat.le_refl _)⟩
  · intro step _ k
    exact step.attempt_kind k

end

private def mended : Plan where
  steps := [⟨"step-1", 1, .click "#buy", [[("selector", .str "#order")]], ⟨false, 1⟩⟩,
    ⟨"step-2", 2, .scroll .bottom .down, [], {}⟩]
  delay _ _ := .ok (.part (.ofNat 1))

private def mendedCourse : Course where
  respond n a := if n = 0 then .raised (.foreign "ValueError" "boom") else
    match a with
    | .screenshot _ => .finished (.image [])
    | .extract _ => .finished (.elements [])
    | _ => .finished .nothing
  delay _ _ := .part (.ofNat 1)

/-- A run whose first step passes with its fallback. -/
theorem undisturbed_run_mended : ∃ m, create ⟨0⟩ "session" "task" mended {} = .ok m ∧
    (∀ k e, mended.delay k e = .ok (mendedCourse.delay k e)) ∧ (∀ n a, (mendedCourse.respond n a).Fits a.kind) ∧
      ∀ clock, ∃ n, (m.receiveAll (m.served mendedCourse n clock)).phase = .finished ∧
        (m.receiveAll (m.served mendedCourse n clock)).asked = [.perform (.click "#buy"), .sleep (.part (.ofNat 1)),
          .perform (.click "#order"), .perform (.scroll .bottom .down)] ∧
          (m.receiveAll (m.served mendedCourse n clock)).session.verdicts = [⟨.success, 1, some 0⟩, ⟨.success, 0, none⟩] := by
  have hcreate : create ⟨0⟩ "session" "task" mended {} =
      .ok { plan := mended, session := .ofSteps ⟨0⟩ "session" "task" mended.steps } := rfl
  have hdelay : ∀ k e, mended.delay k e = .ok (mendedCourse.delay k e) := fun _ _ => rfl
  have hfit : ∀ n a, (mendedCourse.respond n a).Fits a.kind := by
    intro n a
    unfold mendedCourse
    simp only
    split
    · trivial
    · cases a <;> simp [Outcome.Fits, Action.kind]
  have hreport : mendedCourse.report mended.abortsOnFailure mended.steps 0 =
      ⟨[.perform (.click "#buy"), .sleep (.part (.ofNat 1)), .perform (.click "#order"), .perform (.scroll .bottom .down)],
        [⟨.success, 1, some 0⟩, ⟨.success, 0, none⟩]⟩ := by
    decide +kernel
  have hrun := undisturbed_run hcreate hdelay hfit
  refine ⟨_, hcreate, hdelay, hfit, fun clock => ?_⟩
  obtain ⟨n, hun, hfin⟩ := hrun.2.1 clock
  obtain ⟨hasked, hverdicts⟩ := hrun.1 _ hun hfin
  rw [hreport] at hasked hverdicts
  exact ⟨n, hfin, hasked, hverdicts⟩

end Monitor

end BrowserPilot
