import BrowserPilot.Proofs.Rehearsal.Alike
import BrowserPilot.Proofs.Rehearsal.Forward
import BrowserPilot.Proofs.Rehearsal.LaunchFailure
import BrowserPilot.Rehearsal.Batch

/-!
# The jobs of a batch

Every job of a batch comes to what it would come to alone, whatever becomes of
the others and however their calls fall in between. No more browsers are held
at any time than there are slots.
-/

namespace BrowserPilot.Rehearsal

variable {W : Type}

/-! ## Setting up -/

def Stage.fresh (o : RunOptions) (plan : Plan) (browser : Browser) (t : Binary64) (world : W) : Stage (Scene W) where
  time := t
  monitor := { plan, session := .ofSteps (.ofSeconds t) "uuid" o.taskName plan.steps }
  scene := { browser, world }
  interruptions := o.controls.map fun c => (c.1, .control c.2)

/-- Neither the time nor the world has a part in whether and how a run is set up. -/
theorem setUp_cases (o : RunOptions) (script : String) :
    (∃ f, ∀ t (world : W), setUp o script t world = .error f) ∨
      ∃ profile plan browser, Step.checkSequence plan.steps = .ok () ∧ browser.IsClosed ∧
        (∃ pacer random, browser = .create o.settings o.settings.stealth.level.countermeasures pacer random) ∧
          ∀ t (world : W), setUp o script t world = .ok (profile, .fresh o plan browser t world) := by
  unfold setUp
  cases hc : Script.compileWith o.settings.compiler.retries script with
  | error e => exact .inl ⟨_, fun _ _ => rfl⟩
  | ok compiled =>
    cases Pacer.ofScale o.settings.timing.scale with
    | error f => exact .inl ⟨_, fun _ _ => rfl⟩
    | ok pacer =>
      cases o.crash with
      | some f => exact .inl ⟨_, fun _ _ => rfl⟩
      | none =>
        cases o.settings.retry.strategy? with
        | error r => exact .inl ⟨_, fun _ _ => rfl⟩
        | ok strategy =>
          have hseq := Script.compileWith_checkSequence hc
          refine .inr ⟨?profile, ?plan, ?browser, ?steps, ?closed, ⟨pacer, ?random, ?created⟩, fun t world => ?made⟩
          case made =>
            simp only [Except.mapError, ok_bind, Monitor.create, hseq, Except.map]
            rfl
          case steps => exact hseq
          case closed => exact ⟨rfl, rfl, rfl⟩
          case created => rfl

section
variable (respond : Responder W) {o : RunOptions} {script : String} {t : Binary64} {world : W}

theorem runScript_error {f : RunFault} (h : setUp o script t world = .error f) :
    runScript respond o script t world = .error f := by
  rw [runScript, h]
  rfl

theorem runScript_ok {profile : Profile} {s : Stage (Scene W)} (h : setUp o script t world = .ok (profile, s)) :
    runScript respond o script t world = .ok (playRun respond profile s) := by
  rw [runScript, h]
  rfl

end

section
variable {o : RunOptions} {plan : Plan} (hseq : Step.checkSequence plan.steps = .ok ()) (browser : Browser)
include hseq

theorem Stage.fresh_created (t : Binary64) (world : W) :
    Monitor.create (.ofSeconds t) "uuid" o.taskName plan {} = .ok (Stage.fresh o plan browser t world).monitor := by
  rw [Monitor.create, hseq]
  rfl

theorem Stage.fresh_alike {l : Likeness W} (hcalm : o.controls = []) {browser' : Browser} {world : W}
    (hscene : l.scenes { browser, world } { browser := browser', world }) (t t' : Binary64) :
    (Stage.fresh o plan browser t world).ReadyAlike l plan o.taskName (Stage.fresh o plan browser' t' world) := by
  have hquiet : ∀ b t, (Stage.fresh o plan b t world).IsQuiet := fun _ _ => ⟨rfl, congrArg (List.map _) hcalm⟩
  have hfree : (Stage.fresh o plan browser t world).monitor.IsFree plan o.taskName :=
    ⟨Monitor.create_reached (fresh_created hseq browser t world), rfl, rfl, rfl⟩
  exact ⟨⟨⟨⟨rfl, rfl, rfl, rfl, rfl⟩, rfl, rfl, rfl⟩, rfl, hfree, hquiet browser t, hquiet browser' t'⟩,
    ⟨⟨rfl, rfl⟩, ⟨rfl, rfl⟩, hscene⟩, rfl⟩

variable {browser}

theorem Stage.fresh_isSetUp (hb : browser.IsClosed) (t : Binary64) (world : W) :
    (Stage.fresh o plan browser t world).IsSetUp plan.steps o.controls t :=
  ⟨⟨rfl, rfl, rfl, rfl, rfl, rfl, hb⟩, rfl, ⟨_, _, _, fresh_created hseq browser t world⟩, rfl, rfl, rfl⟩

end

/-! ## Jobs that fail outside their run -/

/-- Every step of a session has failed for a reason. -/
structure FailsAll (reason : String) (s : Session) : Prop where
  records : ∀ st ∈ s.steps, st.state = .failed ∧ st.error = some reason
  failedSteps : s.failedSteps = s.totalSteps

theorem FailsAll.of_bare {reason : String} {s s' : Session} (h : FailsAll reason s) (hb : s'.bare = s.bare) :
    FailsAll reason s' := by
  refine ⟨fun st hst => ?_, ?_⟩
  · have hmem : st.bare ∈ s.bare.steps := hb ▸ List.mem_map_of_mem hst
    obtain ⟨st₀, hst₀, heq⟩ := List.mem_map.mp hmem
    have hrec := h.records st₀ hst₀
    have hstate : st.state = st₀.state := (congrArg StepStatus.state heq).symm
    have herror : st.error = st₀.error := (congrArg StepStatus.error heq).symm
    rwa [hstate, herror]
  · have hfailed : s'.failedSteps = s.failedSteps := show s'.bare.failedSteps = s.bare.failedSteps by rw [hb]
    have htotal : s'.totalSteps = s.totalSteps := show s'.bare.totalSteps = s.bare.totalSteps by rw [hb]
    rw [hfailed, htotal]
    exact h.failedSteps

def crashed (now : Instant) (reason : String) (step : Step) : StepStatus :=
  { StepStatus.ofStep step with state := .failed, endedAt := some now, error := some reason, final := true }

theorem crashStep_ofStep (now : Instant) (reason : String) (step : Step) :
    crashStep now reason (.ofStep step) = .ok (crashed now reason step) := rfl

/-- Going through untouched steps one by one, where each is failed and counted. -/
theorem foldlM_crashed (now : Instant) (reason : String) {f : Session → Nat → Except Fault Session}
    (hf : ∀ (done : List StepStatus) (step : Step) (rest : List StepStatus) (s : Session),
      s.steps = done ++ .ofStep step :: rest → f s done.length =
        .ok { s with steps := done ++ crashed now reason step :: rest, failedSteps := s.failedSteps + 1 })
    (post : List Step) : ∀ (done : List StepStatus) (s : Session), s.steps = done ++ post.map .ofStep →
      (List.range' done.length post.length).foldlM f s =
        .ok { s with steps := done ++ post.map (crashed now reason), failedSteps := s.failedSteps + post.length } := by
  induction post with
  | nil =>
    intro done s hs
    rw [List.map_nil, ← List.map_nil (f := StepStatus.ofStep), ← hs]
    rfl
  | cons step post ih =>
    intro done s hs
    have hnext := ih (done ++ [crashed now reason step])
      { s with steps := done ++ crashed now reason step :: post.map .ofStep, failedSteps := s.failedSteps + 1 } (by simp)
    rw [List.length_append, List.length_singleton] at hnext
    rw [List.length_cons, List.range'_succ, List.foldlM_cons, hf done step _ s hs, ok_bind, hnext]
    simp [Nat.add_assoc, Nat.add_comm 1]

theorem crashSteps_ofSteps (now : Instant) (reason : String) (now' : Instant) (id taskName : String) (steps : List Step) :
    crashSteps now reason (.ofSteps now' id taskName steps) = .ok { Session.ofSteps now' id taskName steps with
      steps := steps.map (crashed now reason), failedSteps := steps.length } := by
  have hlen : (Session.ofSteps now' id taskName steps).steps.length = steps.length := List.length_map ..
  rw [crashSteps, List.range_eq_range', hlen]
  refine (foldlM_crashed now reason (fun done step rest s hs => ?_) steps [] _ rfl).trans (by simp [Session.ofSteps])
  simp [Session.updateStep, hs, crashStep_ofStep, Except.map, Session.recordOutcome, crashed]

theorem crashedSession_eq (now : Instant) (job : Job) (reason : String) : ∃ steps,
    crashedSession now job reason = { Session.ofSteps now "uuid" job.taskName steps with
      steps := steps.map (crashed now reason), failedSteps := steps.length, state := .failed, endedAt := some now } := by
  unfold crashedSession
  simp only [crashSteps_ofSteps]
  exact ⟨_, rfl⟩

/-! ## One job -/

def Engagement.options (settings : Settings) (e : Engagement W) : RunOptions :=
  { taskName := e.job.taskName, settings, seed := e.job.seed.getD 0, profile := e.job.profile, crash := e.crash }

def launchFault? (respond : Responder W) (o : RunOptions) (script : String) (t : Binary64) (world : W) : Option Fault :=
  match setUp o script t world with
  | .error _ => none
  | .ok (profile, s) => (s.scene.play respond (Browser.launch (some profile)) t).ending.bind fun e =>
    match e.result with
    | .ok _ => none
    | .error f => some f

/-- A job comes to its own end, which is that of its script run alone if there is
such a run. A fault of the job fails it; a browser that does not start fails all
its steps. -/
structure Isolated (alone : Responder W) (settings : Settings) (e : Engagement W) (s : Session) : Prop where
  taskName : s.taskName = e.job.taskName
  terminal : s.isTerminal = true
  total : s.completedSteps + s.failedSteps = s.totalSteps
  same : ∀ t r, runScript alone (e.options settings) e.job.script t e.world = .ok r →
    r.ended.isSome = true ∧ r.fault? = none ∧ s.bare = r.monitor.session.bare
  crashed : ∀ t f, runScript alone (e.options settings) e.job.script t e.world = .error f →
    s.state = .failed ∧ FailsAll (crashReason f.kind f.message) s
  unlaunched : ∀ t f, launchFault? alone (e.options settings) e.job.script t e.world = some f →
    s.state = (if s.totalSteps = 0 then .completed else .failed) ∧ FailsAll (launchReason f) s

section
variable {respond alone : Responder W} (ha : AnswerAlike respond alone) (settings : Settings) (e : Engagement W)

theorem runJob_error {f : RunFault} {t : Binary64}
    (h : runScript respond (e.options settings) e.job.script t e.world = .error f) :
    runJob respond settings e t =
      { session := crashedSession (.ofSeconds t) e.job (crashReason f.kind f.message)
        calls := if f.reachesBrowser then some [] else none, started := t, finished := some t } := by
  unfold Engagement.options at h
  simp only [runJob, h]

theorem runJob_ok {r : RunReport W} {t : Binary64}
    (h : runScript respond (e.options settings) e.job.script t e.world = .ok r) (hr : r.fault? = none) :
    runJob respond settings e t =
      { session := r.monitor.session, events := r.monitor.events, calls := some r.scene.calls, started := t
        finished := r.ended } := by
  unfold Engagement.options at h
  simp only [runJob, h, hr]

theorem isolated_crashed {f : RunFault} (h : ∀ t (world : W), setUp (e.options settings) e.job.script t world = .error f)
    (now : Instant) : Isolated alone settings e (crashedSession now e.job (crashReason f.kind f.message)) := by
  have hrun : ∀ t, runScript alone (e.options settings) e.job.script t e.world = .error f := fun t =>
    runScript_error alone (h t e.world)
  obtain ⟨steps, hs⟩ := crashedSession_eq now e.job (crashReason f.kind f.message)
  rw [hs]
  refine ⟨rfl, rfl, Nat.zero_add _, fun t r hr => ?_, fun t f' hf => ?_, fun t f' hf => ?_⟩
  · cases (hrun t).symm.trans hr
  · cases (hrun t).symm.trans hf
    refine ⟨rfl, fun st hst => ?_, rfl⟩
    obtain ⟨step, _, rfl⟩ := List.mem_map.mp hst
    exact ⟨rfl, rfl⟩
  · rw [launchFault?, h] at hf
    cases hf

include ha

/-- **What becomes of a job** is its own affair, and it does come to its end. -/
theorem runJob_isolated (t : Binary64) : (runJob respond settings e t).finished.isSome = true ∧
    Isolated alone settings e (runJob respond settings e t).session := by
  rcases setUp_cases (W := W) (e.options settings) e.job.script with ⟨f, hf⟩ | ⟨profile, plan, browser, hseq, hb, _, hset⟩
  · rw [runJob_error settings e (runScript_error respond (hf t e.world))]
    exact ⟨rfl, isolated_crashed settings e hf _⟩
  · have hrun : ∀ (x : Responder W) t, runScript x (e.options settings) e.job.script t e.world =
        .ok (playRun x profile (.fresh (e.options settings) plan browser t e.world)) := fun x t =>
      runScript_ok x (hset t e.world)
    have halike : ∀ t', (playRun respond profile (.fresh (e.options settings) plan browser t e.world)).Alike plan
        e.job.taskName (playRun alone profile (.fresh (e.options settings) plan browser t' e.world)) := by
      intro t'
      have hscene : Likeness.answered.scenes { browser, world := e.world } { browser, world := e.world } := ⟨rfl, rfl⟩
      exact playRun_alike ha (Stage.fresh_alike (o := e.options settings) hseq browser rfl hscene t t') profile
    generalize hr : playRun respond profile (.fresh (e.options settings) plan browser t e.world) = r at halike
    have hdone := (halike t).done
    have hfault : r.fault? = none := by rw [RunReport.fault?, hdone.phase]
    rw [runJob_ok settings e ((hrun respond t).trans (congrArg _ hr)) hfault]
    refine ⟨(halike t).ended.1, hdone.taskName, hdone.isOver.isTerminal, hdone.isOver.isSettled.total, fun t' r' hr' => ?_,
      fun t' f hf => ?_, fun t' f hf => ?_⟩
    · cases (hrun alone t').symm.trans hr'
      have hover := (halike t').monitor
      refine ⟨(halike t').ended.2, ?_, hover.session⟩
      rw [RunReport.fault?, ← hover.phase, hdone.phase]
    · cases (hrun alone t').symm.trans hf
    · rw [launchFault?, hset] at hf
      obtain ⟨e', he', hf⟩ := Option.bind_eq_some_iff.mp hf
      have hres : e'.result = .error f := by
        cases hres : e'.result <;> simp_all
      have hsame := (halike t').monitor.session
      obtain ⟨_, hun⟩ := playRun_unlaunched alone
        (Stage.fresh_isSetUp (o := e.options settings) hseq hb t' e.world) profile he' hres
      have hfails : FailsAll (launchReason f) r.monitor.session :=
        FailsAll.of_bare ⟨hun.failed, hun.failedSteps⟩ hsame
      obtain ⟨htotal, _, hstate⟩ := hdone.isOver.of_failed fun st hst => (hfails.records st hst).1
      refine ⟨?_, hfails⟩
      rw [hstate, htotal]
      cases plan.steps <;> rfl

end

/-! ## Slots -/

theorem takeSlot_perm : ∀ {slots : List Binary64}, slots ≠ [] → ∃ t others, takeSlot slots = some (t, others) ∧
    slots.Perm (t :: others) := by
  intro slots
  induction slots with
  | nil => exact fun h => absurd rfl h
  | cons t rest ih =>
    intro _
    unfold takeSlot
    cases rest with
    | nil => exact ⟨t, [], rfl, .refl _⟩
    | cons u rest =>
      obtain ⟨v, others, hv, hperm⟩ := ih (List.cons_ne_nil _ _)
      rw [hv]
      dsimp only
      split
      · exact ⟨v, t :: others, rfl, (hperm.cons t).trans (.swap v t others)⟩
      · exact ⟨t, u :: rest, rfl, .refl _⟩

/-- Calls on the browser of a job are made between its start and its end. -/
structure JobReport.IsInTime (r : JobReport) : Prop where
  calls : ∀ c ∈ r.calls.getD [], r.started.le c.1 = true
  finished : ∀ u ∈ r.finished, r.started.le u = true ∧ ∀ c ∈ r.calls.getD [], c.1.le u = true

/-- Jobs with the slots they take, of which there are so many. Who takes a slot
starts when the one who had it before has come to its end. -/
structure InSlots (n : Nat) (served : List (Nat × JobReport)) : Prop where
  slots : ∀ x ∈ served, x.1 < n
  inTime : ∀ x ∈ served, x.2.IsInTime
  turns : served.Pairwise fun x y => x.1 = y.1 → ∃ u ∈ x.2.finished, u.le y.2.started = true

theorem InSlots.nil (n : Nat) : InSlots n [] := ⟨List.forall_mem_nil _, List.forall_mem_nil _, .nil⟩

theorem InSlots.cons {n k : Nat} {r : JobReport} {served : List (Nat × JobReport)} (h : InSlots n served) (hk : k < n)
    (hr : r.IsInTime) (hturn : ∀ x ∈ served, k = x.1 → ∃ u ∈ r.finished, u.le x.2.started = true) :
    InSlots n ((k, r) :: served) :=
  ⟨List.forall_mem_cons.mpr ⟨hk, h.slots⟩, List.forall_mem_cons.mpr ⟨hr, h.inTime⟩, .cons hturn h.turns⟩

structure AreFree (n : Nat) (times : List Binary64) (free : List (Nat × Binary64)) : Prop where
  times : times.Perm (free.map (·.2))
  apart : (free.map (·.1)).Nodup
  slots : ∀ x ∈ free, x.1 < n ∧ x.2.le x.2 = true

theorem areFree_replicate {n k : Nat} (h : k ≤ n) :
    AreFree n (List.replicate k (.zero false)) ((List.range k).map (·, .zero false)) := by
  refine ⟨?_, ?_, fun x hx => ?_⟩
  · simp [Function.comp_def]
  · simp [Function.comp_def, List.nodup_range]
  · obtain ⟨i, hi, rfl⟩ := List.mem_map.mp hx
    exact ⟨(List.mem_range.mp hi).trans_le h, rfl⟩

theorem AreFree.take {n : Nat} {times others : List Binary64} {free : List (Nat × Binary64)} {t : Binary64}
    (h : AreFree n times free) (hperm : times.Perm (t :: others)) :
    ∃ k rest, free.Perm ((k, t) :: rest) ∧ AreFree n (t :: others) ((k, t) :: rest) := by
  have htimes := hperm.symm.trans h.times
  obtain ⟨⟨k, t⟩, hmem, rfl⟩ := List.mem_map.mp (htimes.mem_iff.mp (List.mem_cons_self ..))
  obtain ⟨l, r, rfl⟩ := List.append_of_mem hmem
  have hfree : (l ++ (k, t) :: r).Perm ((k, t) :: (l ++ r)) := List.perm_middle
  exact ⟨k, l ++ r, hfree, htimes.trans (hfree.map _), (hfree.map _).nodup_iff.mp h.apart,
    fun x hx => h.slots x (hfree.mem_iff.mpr hx)⟩

/-- A slot that has been taken is free again when its job has come to its end, if it does. -/
theorem AreFree.release {n k : Nat} {t : Binary64} {others : List Binary64} {rest : List (Nat × Binary64)}
    (h : AreFree n (t :: others) ((k, t) :: rest)) {finished : Option Binary64} (hf : ∀ u ∈ finished, t.le u = true) :
    AreFree n (finished.toList ++ others) (finished.toList.map (Prod.mk k) ++ rest) := by
  have hothers : others.Perm (rest.map (·.2)) := h.times.cons_inv
  obtain ⟨hslot, hrest⟩ := List.forall_mem_cons.mp h.slots
  cases finished with
  | none => exact ⟨hothers, (List.nodup_cons.mp h.apart).2, hrest⟩
  | some u =>
    exact ⟨hothers.cons u, h.apart, List.forall_mem_cons.mpr ⟨⟨hslot.1, Binary64.le_self_of_le (hf u rfl)⟩, hrest⟩⟩

/-- The browser of a job is driven at a time: a call on it has been made, and the job has not come to its end. -/
def JobReport.holdsBrowser (T : Binary64) (r : JobReport) : Bool :=
  (r.calls.getD []).any (fun c => c.1.le T) && !r.finished.any fun t => t.le T

/-- A browser that is driven leaves none to those who had its slot before. -/
theorem JobReport.IsInTime.idle_before {r r' : JobReport} (hr : r.IsInTime) {T : Binary64} (hholds : r.holdsBrowser T = true)
    (h : ∃ u ∈ r'.finished, u.le r.started = true) : r'.holdsBrowser T = false := by
  obtain ⟨u, hu, hle⟩ := h
  obtain ⟨hcalled, _⟩ := Bool.and_eq_true_iff.mp hholds
  obtain ⟨c, hc, hT⟩ := List.any_eq_true.mp hcalled
  have hgone : u.le T = true := Binary64.le_trans (Binary64.le_trans hle (hr.calls c hc)) hT
  rw [holdsBrowser, hu, Option.any_some, hgone, Bool.not_true, Bool.and_false]

/-- At no time are more browsers driven than there are slots. -/
theorem InSlots.countP_holdsBrowser_le {n : Nat} {served : List (Nat × JobReport)} (h : InSlots n served) (T : Binary64) :
    (served.map (·.2)).countP (·.holdsBrowser T) ≤ n := by
  let driven := served.filter fun x => x.2.holdsBrowser T
  have hmem : ∀ {x}, x ∈ driven → x ∈ served ∧ x.2.holdsBrowser T = true := List.mem_filter.mp
  have hapart : (driven.map (·.1)).Nodup := by
    rw [List.Nodup, List.pairwise_map]
    refine (h.turns.filter _).imp_of_mem fun {x y} hx hy hturn heq => ?_
    have hidle := (h.inTime y (hmem hy).1).idle_before (hmem hy).2 (hturn heq)
    exact absurd ((hmem hx).2.symm.trans hidle) nofun
  have hslots : driven.map (·.1) ⊆ List.range n := by
    intro k hk
    obtain ⟨x, hx, rfl⟩ := List.mem_map.mp hk
    exact List.mem_range.mpr (h.slots x (hmem hx).1)
  calc (served.map (·.2)).countP (·.holdsBrowser T) = driven.length := by
        rw [List.countP_map, List.countP_eq_length_filter]
        rfl
    _ = (driven.map (·.1)).length := List.length_map .. |>.symm
    _ ≤ (List.range n).length := hapart.length_le_of_subset hslots
    _ = n := List.length_range

section
variable {respond : Responder W} (hr : IsForward respond) (settings : Settings)
include hr

theorem runJob_isInTime (e : Engagement W) {t : Binary64} (ht : t.le t = true) :
    (runJob respond settings e t).started = t ∧ (runJob respond settings e t).IsInTime := by
  rcases setUp_cases (W := W) (e.options settings) e.job.script with ⟨f, hf⟩ | ⟨profile, plan, browser, hseq, hb, _, hset⟩
  · have hnone : ∀ b : Bool, (if b then some [] else none : Option (List (Binary64 × Call))).getD [] = [] := by
      intro b
      cases b <;> rfl
    rw [runJob_error settings e (runScript_error respond (hf t e.world))]
    refine ⟨rfl, ?_, fun u hu => ?_⟩
    · rw [hnone]
      exact List.forall_mem_nil _
    · rw [hnone]
      exact ⟨Option.mem_some.mp hu ▸ ht, List.forall_mem_nil _⟩
  · have hrun := runScript_ok respond (hset t e.world)
    have hidle := (Stage.fresh_isSetUp (o := e.options settings) hseq hb t e.world).idle
    have hsince := playRun_since hr (s := .fresh (e.options settings) plan browser t e.world)
      ⟨ht, List.forall_mem_nil _, by rintro _ ⟨⟩⟩ hidle profile
    unfold Engagement.options at hrun hsince
    simp only [runJob, hrun]
    exact ⟨trivial, hsince.scene, fun u hu => ⟨(hsince.ended u hu).1, fun c hc => ((hsince.ended u hu).2 c hc).2⟩⟩

/-- **The jobs of a batch take turns** in the slots, each of which is free from a time on. -/
theorem runJobs_inSlots {n : Nat} (jobs : List (Engagement W)) : ∀ {slots : List Binary64} {free : List (Nat × Binary64)},
    AreFree n slots free → ∃ served, served.map (·.2) = runJobs respond settings jobs slots ∧ InSlots n served ∧
      ∀ x ∈ served, ∃ y ∈ free, y.1 = x.1 ∧ y.2.le x.2.started = true := by
  induction jobs with
  | nil => exact fun _ => ⟨[], rfl, .nil n, List.forall_mem_nil _⟩
  | cons e jobs ih =>
    intro slots free h
    by_cases hne : slots = []
    · rw [hne]
      exact ⟨[], rfl, .nil n, List.forall_mem_nil _⟩
    · obtain ⟨t, others, htake, hslots⟩ := takeSlot_perm hne
      obtain ⟨k, rest, hfree, hused⟩ := h.take hslots
      obtain ⟨hk, ht⟩ := hused.slots _ (List.mem_cons_self ..)
      obtain ⟨hstarted, htime⟩ := runJob_isInTime hr settings e ht
      simp only [runJobs, htake]
      generalize runJob respond settings e t = report at hstarted htime
      subst hstarted
      obtain ⟨served, hserved, hin, hafter⟩ := ih (hused.release fun u hu => (htime.finished u hu).1)
      have hfresh : ∀ y ∈ rest, y.1 ≠ k := by
        rintro y hy rfl
        exact (List.nodup_cons.mp hused.apart).1 (List.mem_map.mpr ⟨y, hy, rfl⟩)
      -- who takes the slot again has waited for the report to be finished
      have hwaited : ∀ x ∈ served, (x.1 = k → ∃ u ∈ report.finished, u.le x.2.started = true) ∧
          ∃ y ∈ free, y.1 = x.1 ∧ y.2.le x.2.started = true := by
        intro x hx
        obtain ⟨y, hy, hyk, hle⟩ := hafter x hx
        rcases List.mem_append.mp hy with hy | hy
        · obtain ⟨u, hu, rfl⟩ := List.mem_map.mp hy
          have hu := Option.mem_toList.mp hu
          exact ⟨fun _ => ⟨u, hu, hle⟩, _, hfree.mem_iff.mpr (List.mem_cons_self ..), hyk,
            Binary64.le_trans (htime.finished u hu).1 hle⟩
        · have hy' := hfree.mem_iff.mpr (List.mem_cons_of_mem _ hy)
          exact ⟨fun heq => absurd (hyk.trans heq) (hfresh y hy), y, hy', hyk, hle⟩
      refine ⟨(k, report) :: served, congrArg (List.cons report) hserved, ?_, List.forall_mem_cons.mpr ⟨?_, ?_⟩⟩
      · exact hin.cons hk htime fun x hx heq => (hwaited x hx).1 heq.symm
      · exact ⟨_, hfree.mem_iff.mpr (List.mem_cons_self ..), rfl, ht⟩
      · exact fun x hx => (hwaited x hx).2

end

/-! ## The batch -/

section
variable {respond alone : Responder W} (ha : AnswerAlike respond alone) (settings : Settings)
include ha

/-- As long as there is a slot at all, every job gets one in its turn. -/
theorem runJobs_isolated (jobs : List (Engagement W)) : ∀ {slots : List Binary64}, (jobs = [] ∨ slots ≠ []) →
    (∀ r ∈ runJobs respond settings jobs slots, r.finished.isSome = true) ∧
      List.Forall₂ (fun e r => Isolated alone settings e r.session) jobs (runJobs respond settings jobs slots) := by
  induction jobs with
  | nil => exact fun _ => ⟨List.forall_mem_nil _, .nil⟩
  | cons e jobs ih =>
    intro slots h
    obtain ⟨t, others, htake, _⟩ := takeSlot_perm (h.resolve_left (List.cons_ne_nil _ _))
    obtain ⟨hfinished, hjob⟩ := runJob_isolated ha settings e t
    obtain ⟨u, hu⟩ := Option.isSome_iff_exists.mp hfinished
    have hrest := ih (.inr (List.cons_ne_nil u others))
    simp only [runJobs, htake, hu, Option.toList_some]
    exact ⟨List.forall_mem_cons.mpr ⟨hfinished, hrest.1⟩, .cons hjob hrest.2⟩

end

private def usualSettings : Settings := { projectRoot := ⟨"/", []⟩ }

private def visitor : Profile := ⟨"Mozilla/5.0", ⟨1280, 720⟩, "Europe/Berlin", "de-DE"⟩

/-- A driven browser that starts in some worlds only, with replies that come at given times. -/
private def unsteady (comes : Binary64 → Binary64) : Responder Bool := fun t c starts =>
  match c with
  | .launch _ =>
    ⟨starts, some (comes t), if starts then .value .null else .raised (.foreign "PlaywrightError" "no chrome")⟩
  | _ => ⟨starts, some (comes t), .value .null⟩

private def lost : Engagement Bool where
  job := { script := "", taskName := "lost", seed := some 1, profile := some visitor }
  world := false

private def shop : Engagement Bool where
  job := { script := "// step 1\nawait page.click('#buy')", taskName := "shop", seed := some 2, profile := some visitor }
  world := true

private theorem unsteady_comes (comes : Binary64 → Binary64) (t : Binary64) (c : Call) (starts : Bool) :
    (unsteady comes t c starts).comes = some (comes t) := by
  cases c <;> rfl

end BrowserPilot.Rehearsal
