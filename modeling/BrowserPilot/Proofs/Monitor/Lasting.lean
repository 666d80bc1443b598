import BrowserPilot.Proofs.Monitor.Protocol

/-!
# What lasts in a run

Final records, the last state of a session and a stop are kept by everything
that a run does, and after a stop no primitive is called any more.
-/

namespace BrowserPilot

/-- The final records of a session stand in a later one as they are. -/
def Session.KeepsFinal (s s' : Session) : Prop :=
  ∀ (i : Nat) (st : StepStatus), s.steps[i]? = some st → st.final = true → s'.steps[i]? = some st

namespace Monitor

def calls (m : Monitor) : List Request := m.asked.filter Request.isPerform

/-- After a stop nothing is called, and no step begins to run. -/
structure StaysStopped (m m' : Monitor) : Prop where
  control : m'.control.stopped = true
  calls : m'.calls = m.calls
  running : ∀ i, m'.Runs i → m.Runs i

/-- What a run keeps of a monitor in the later ones. -/
structure Follows (m m' : Monitor) : Prop where
  total : m'.session.totalSteps = m.session.totalSteps
  records : m.session.KeepsFinal m'.session
  state : m.session.isTerminal = true → m'.session.state = m.session.state
  stopped : m.control.stopped = true → m.StaysStopped m'

section
variable {m m₁ m₂ : Monitor}

theorem StaysStopped.refl (h : m.control.stopped = true) : m.StaysStopped m := ⟨h, rfl, fun _ => id⟩

theorem StaysStopped.trans (h : m.StaysStopped m₁) (h' : m₁.StaysStopped m₂) : m.StaysStopped m₂ :=
  ⟨h'.control, h'.calls.trans h.calls, fun i hr => h.running i (h'.running i hr)⟩

theorem Follows.refl (m : Monitor) : m.Follows m := ⟨rfl, fun _ _ h _ => h, fun _ => rfl, .refl⟩

theorem Follows.trans (h : m.Follows m₁) (h' : m₁.Follows m₂) : m.Follows m₂ where
  total := h'.total.trans h.total
  records i st hi hf := h'.records i st (h.records i st hi hf) hf
  state ht := by
    have hs := h.state ht
    have ht₁ : m₁.session.isTerminal = true := by rw [Session.isTerminal, hs]; exact ht
    exact (h'.state ht₁).trans hs
  stopped hst := (h.stopped hst).trans (h'.stopped (h.stopped hst).control)

theorem Follows.of_steps (hs : m₁.session.steps = m.session.steps) (ht : m₁.session.totalSteps = m.session.totalSteps)
    (hstate : m.session.isTerminal = true → m₁.session.state = m.session.state)
    (hstop : m.control.stopped = true → m₁.control.stopped = true)
    (hcalls : m.control.stopped = true → m₁.calls = m.calls) : m.Follows m₁ where
  total := ht
  records i st hi _ := by rw [hs]; exact hi
  state := hstate
  stopped hst := ⟨hstop hst, hcalls hst, fun i hr => by unfold Runs at hr; rwa [hs] at hr⟩

theorem Follows.of_cut {pre post : List Step} {done rest rest' : List StepStatus} (hcut : m.session.Cut pre post done rest)
    (hs : m₁.session.steps = done ++ rest') (ht : m₁.session.totalSteps = m.session.totalSteps)
    (hstate : m.session.isTerminal = true → m₁.session.state = m.session.state)
    (hstop : m.control.stopped = true → m.StaysStopped m₁) : m.Follows m₁ where
  total := ht
  records i st hi hf := by
    rw [hcut.steps] at hi
    rcases Nat.lt_or_ge i done.length with hlt | hge
    · rw [hs, List.getElem?_append_left hlt]
      rwa [List.getElem?_append_left hlt] at hi
    · rw [List.getElem?_append_right hge] at hi
      have hopen := StepStatus.not_final_of_isPending (hcut.pending st (List.mem_of_getElem? hi))
      rw [hf] at hopen
      cases hopen
  state := hstate
  stopped := hstop

/-! ## Moves -/

theorem stopping_follows (now : Moment) (m : Monitor) : m.Follows (m.stopping now) := by
  refine .of_steps (stopping_steps now m) ?_ ?_ ?_ ?_
  · unfold stopping; split <;> rfl
  · intro ht
    rw [stopping, if_pos ht]
  · rw [stopping_control]
    exact id
  · intro _
    unfold stopping
    split <;> rfl

theorem applyControl_follows (call : ControlCall) (m : Monitor) : m.Follows (m.applyControl call) :=
  .of_steps rfl rfl (fun _ => rfl) (apply_stopped m.control call) fun _ => rfl

section
variable {step : Step} {post : List Step} {done : List StepStatus} {st t : StepStatus}

theorem At.not_runs (h : m.At step post done st) (hs : m₁.session.steps = done ++ t :: post.map StepStatus.ofStep)
    (ht : t.state ≠ .running) (i : Nat) : ¬m₁.Runs i := by
  obtain ⟨pre, _, hcut⟩ := h
  rintro ⟨st', hi, hr⟩
  have hmem := List.mem_of_getElem? hi
  rw [hs, List.mem_append, List.mem_cons, List.mem_map] at hmem
  rcases hmem with hd | rfl | ⟨step', _, rfl⟩
  · exact StepStatus.not_running_of_isTerminal (hcut.terminal st' hd) hr
  · exact ht hr
  · cases hr

theorem At.settling_follows (h : m.At step post done st) (now : Moment) (ht : t.state ≠ .running) :
    m.Follows (m.settling now done t (post.map StepStatus.ofStep)) := by
  have hat := h
  obtain ⟨pre, _, hcut⟩ := h
  refine .of_cut hcut (settling_steps now done t _ m) (by rw [settling_session]) (fun _ => by rw [settling_session]) ?_
  intro hst
  exact ⟨hst, rfl, fun i hr => absurd hr (hat.not_runs (settling_steps now done t _ m) ht i)⟩

/-- An attempt begins only while the run is not stopped. -/
theorem At.attempting_follows (h : m.At step post done st) (now : Moment) (number : Nat) (hst : m.control.stopped = false) :
    m.Follows (m.attempting now step number done st (post.map StepStatus.ofStep)) := by
  obtain ⟨pre, _, hcut⟩ := h
  exact .of_cut hcut rfl rfl (fun _ => rfl) fun h => absurd h (by simp [hst])

theorem At.failing_follows (h : m.At step post done st) (a : Attempt) (e : StepFault) :
    m.Follows (m.failing done st (post.map StepStatus.ofStep) a e) := by
  have hat := h
  obtain ⟨pre, _, hcut⟩ := h
  refine .of_cut hcut rfl rfl (fun _ => rfl) fun hst => ⟨hst, rfl, fun i hr => ?_⟩
  exact absurd hr (hat.not_runs (t := st.faulted .failed e.message (failureLine a e)) rfl nofun i)

end

theorem Enters.follows {now : Moment} {post : List Step} {done : List StepStatus} {r : Monitor × Next}
    (he : Enters now m done post r) (hb : m.Before post done) (hs : m.session.StandsAt .running m.control.stopped) :
    m.Follows r.1 := by
  cases he with
  | past => exact .refl m
  | stopped hst => exact stopping_follows now m
  | @paused step post hst hpa =>
    have hrun := (hs.of_not_stopped hst).1
    refine .of_steps rfl rfl (fun ht => ?_) (fun h => absurd h (by simp [hst])) fun h => absurd h (by simp [hst])
    rw [Session.isTerminal, hrun] at ht
    cases ht
  | begun hst hpa => exact At.attempting_follows hb now 1 hst

/-- The monitor that a move of the step loop leaves, be it with a fault. -/
def leftBy : Except Halt (Monitor × Next) → Monitor
  | .ok r => r.1
  | .error h => h.monitor

section
variable {a : Attempt} {step : Step} {post : List Step} {done : List StepStatus} {st t : StepStatus} {e : StepFault}
  {now : Moment} {r : Monitor × Next} (hs : m.session.StandsAt .running m.control.stopped)
include hs

theorem Advances.follows (hn : Advances now m post done t r) :
    (m.settling now done t (post.map StepStatus.ofStep)).Follows r.1 :=
  hn.enters.follows hn.before (settling_stands hs now done t _)

theorem GivesUp.follows (hn : GivesUp now m post done t r) :
    (m.settling now done t (post.map StepStatus.ofStep)).Follows r.1 := by
  cases hn with
  | aborts => exact .refl _
  | goesOn _ hn => exact hn.follows hs

theorem Fails.follows {r : Except Halt (Monitor × Next)} (h : m.At step post done st)
    (hn : Fails now m a step post done st e r) : m.Follows (leftBy r) := by
  have hfail := h.failing_follows a e
  cases hn with
  | skipped _ hn => exact (h.settling_follows now (t := st.faulted .skipped _ _) nofun).trans (hn.follows hs)
  | undelayed => exact hfail
  | exhausted _ _ hn =>
    exact hfail.trans (((h.failing a e).settling_follows now (t := st.faulted .failed _ _) nofun).trans (hn.follows hs))
  | @retrying delay _ _ hst _ =>
    exact hfail.trans (.of_steps rfl rfl (fun _ => rfl) id fun h => absurd (h.symm.trans hst) nofun)

end

/-- **Every turn keeps what lasts.** -/
theorem Turns.follows {p : Plan} {c : Control} {now : Moment} {r : Except Halt (Monitor × Next)} (ht : Turns now m r)
    (h : m.Inv p c) : m.Follows (leftBy r) := by
  obtain ⟨rfl, rfl, hph⟩ := h
  have hsees : ∀ {a : Attempt} {o : Outcome}, m.Sees a o → m.session.StandsAt .running m.control.stopped := by
    rintro a o (hphase | ⟨expired, hphase⟩) <;> rw [hphase] at hph <;> exact hph.1
  cases ht with
  | idle _ | unstored _ _ _ _ | lost _ _ _ => exact .refl m
  | unparked _ _ => exact stopping_follows now m
  | @resumed i step post done hphase hst _ hat =>
    rw [hphase] at hph
    have hpau := (hph.1.of_not_stopped hst).1
    have hres : m.Follows (m.resuming now) := by
      refine .of_steps rfl rfl (fun ht => ?_) id fun _ => rfl
      rw [Session.isTerminal, hpau] at ht
      cases ht
    obtain ⟨pre, hpost, hcut⟩ := hat
    exact hres.trans (At.attempting_follows (m := m.resuming now) ⟨pre, hpost, hcut.of_state⟩ now 1 hst)
  | resumedPast hphase hst _ =>
    rw [hphase] at hph
    have hpau := (hph.1.of_not_stopped hst).1
    refine .of_steps rfl rfl (fun ht => ?_) id fun _ => rfl
    rw [Session.isTerminal, hpau] at ht
    cases ht
  | @passed a step post done st st' o r hs htry _ _ hn =>
    have hpassed := htry.here.settling_follows now (t := st'.passed a.fallback) (show StepState.success ≠ .running by decide)
    exact hpassed.trans (hn.follows (hsees hs))
  | failed hs _ htry _ hn => exact hn.follows (hsees hs) htry.here
  | @graced a step post done st hphase hst htry hr =>
    refine (stopping_follows now m).trans (.of_steps rfl rfl (fun _ => rfl) id fun _ => ?_)
    simp [calls, asked, leftBy, gracing, request, emit, Request.isPerform]
  | cancelled hphase htry _ =>
    refine htry.here.settling_follows now (t := StepStatus.faulted _ _ _ _) ?_
    show StepState.failed ≠ .running
    decide
  | deserted hphase hst htry hf hn =>
    rw [hphase] at hph
    have hs' : (m.stopping now).session.StandsAt .running (m.stopping now).control.stopped := by
      rw [stopping_control, hst]
      exact stopping_stands now (s := .running) rfl hph.1
    refine (stopping_follows now m).trans (((htry.here.stopping now).settling_follows now ?_).trans (hn.follows hs'))
    rw [hf]
    decide
  | retried hphase hst htry _ => exact htry.here.attempting_follows now _ hst

/-! ## The end of a run -/

section
variable {pre post : List Step} {done rest : List StepStatus} (hcut : m.session.Cut pre post done rest) (now : Moment)
include hcut

theorem winding_follows (reason : String) : m.Follows (m.winding now reason done rest) := by
  have hw := winding_eq now reason rest done m hcut.steps
  have hwound := Session.Cut.winding now reason hcut
  have hsteps : (m.winding now reason done rest).session.steps = done ++ rest.map (StepStatus.abandoned now.wall reason) := by
    rw [hw]
  refine .of_cut hcut hsteps ?_ (fun _ => ?_) fun hst => ⟨?_, ?_, ?_⟩
  · rw [hw]
  · rw [hw]
  · rw [hw]; exact hst
  · rw [hw]; rfl
  · intro i hr
    obtain ⟨st, hi, _⟩ := hr.of_cut hwound
    cases hi

omit hcut in
theorem concluding_follows (m : Monitor) : m.Follows (m.concluding now) := by
  have hc := concluding_eq now m
  refine .of_steps (by rw [hc]) (by rw [hc]) (fun ht => ?_) (fun hst => by rw [hc]; exact hst) fun _ => by rw [hc]; rfl
  rw [concluding, if_pos ht]

theorem ending_follows : m.Follows (m.ending now done rest) := by
  let m₀ : Monitor := { m with isFinished := true }
  have h₀ : m.Follows m₀ := .of_steps rfl rfl (fun _ => rfl) id fun _ => rfl
  have hw : m₀.Follows ((m₀.winding now notExecuted done rest).concluding now) :=
    (winding_follows (m := m₀) hcut now notExecuted).trans (concluding_follows now _)
  refine h₀.trans (hw.trans ?_)
  unfold ending
  simp only
  split
  · refine .of_steps rfl rfl (fun _ => rfl) id fun _ => ?_
    simp [calls, asked, request, Request.isPerform]
    rfl
  · exact .of_steps rfl rfl (fun _ => rfl) id fun _ => rfl

end

/-- A fault fails every open record with its reason, and the end of the run finds none. -/
theorem afterMove_error (now : Moment) {f : Fault} {pre post : List Step} {done rest : List StepStatus}
    (hcut : m.session.Cut pre post done rest) : afterMove now (.error ⟨m, f⟩) =
      ((m.emit now .error [("error", .str f.message)]).winding now (reasonOf f) done rest).ending now
        (done ++ rest.map (StepStatus.abandoned now.wall (reasonOf f))) [] :=
  failRemaining_finish (m := m.emit now .error [("error", .str f.message)]) now (reasonOf f) hcut

theorem afterMove_follows {p : Plan} {c : Control} {r : Except Halt (Monitor × Next)} (hl : Lands p c r) (now : Moment) :
    (leftBy r).Follows (afterMove now r) := by
  match r, hl with
  | .ok (m, .wait), _ => exact .refl m
  | .ok (m, .leave), hl =>
    obtain ⟨pre, post, done, rest, _, hcut⟩ := hl.split
    simp only [afterMove, finish_eq hcut.steps hcut.terminal hcut.pending, orRaised]
    exact ending_follows hcut now
  | .error ⟨m, f⟩, hl =>
    obtain ⟨pre, post, done, rest, _, hcut⟩ := hl.split
    let m₀ := m.emit now .error [("error", .str f.message)]
    have hcut₀ : m₀.session.Cut pre post done rest := hcut
    have h₀ : m.Follows m₀ := .of_steps rfl rfl (fun _ => rfl) id fun _ => rfl
    rw [afterMove_error now hcut]
    exact h₀.trans ((winding_follows hcut₀ now (reasonOf f)).trans
      (ending_follows (Session.Cut.winding now (reasonOf f) hcut₀) now))

/-! ## Signals and runs -/

/-- **Every signal keeps what lasts.** -/
theorem receive_follows {p : Plan} {c : Control} (h : m.phase ≠ .finished → m.Inv p c) (now : Moment) {s : Signal}
    (hs : s.isOfRun = true) : m.Follows (m.receive now s) := by
  have hreceives := receive_receives h now hs
  generalize m.receive now s = m' at hreceives
  cases hreceives with
  | called call => exact applyControl_follows call m
  | halted => exact (applyControl_follows .stop m).trans (stopping_follows now _)
  | begun _ _ hstands hb he hl =>
    have hsaid (data : Json.Members) : m.Follows (m.emit now .sessionStarted data) :=
      .of_steps rfl rfl (fun _ => rfl) id fun _ => rfl
    exact (hsaid _).trans ((he.follows hb hstands).trans (afterMove_follows hl now))
  | turned hinv _ ht hl => exact (ht.follows hinv).trans (afterMove_follows hl now)
  | heard _ | closed _ _ => exact .of_steps rfl rfl (fun _ => rfl) id fun _ => rfl
  | missed _ => exact .refl m

theorem receiveAll_cons (x : Moment × Signal) (later : List (Moment × Signal)) (m : Monitor) :
    m.receiveAll (x :: later) = (m.receive x.1 x.2).receiveAll later := rfl

theorem receiveAll_append (signals later : List (Moment × Signal)) (m : Monitor) :
    m.receiveAll (signals ++ later) = (m.receiveAll signals).receiveAll later := List.foldl_append

/-- What a run has come to lasts for the rest of it. -/
theorem receiveAll_follows {now : Instant} {id taskName : String} {p : Plan} {c : Control}
    (hm : create now id taskName p c = .ok m) {signals : List (Moment × Signal)} (hs : ∀ x ∈ signals, x.2.isOfRun = true)
    (later : List (Moment × Signal)) (hl : ∀ x ∈ later, x.2.isOfRun = true) :
    (m.receiveAll signals).Follows ((m.receiveAll signals).receiveAll later) := by
  induction later using List.reverseRecOn with
  | nil => exact .refl _
  | append_singleton later x ih =>
    have hl' : ∀ y ∈ later, y.2.isOfRun = true := fun y hy => hl y (by simp [hy])
    have hinv := receiveAll_inv (signals ++ later) (create_inv hm) (List.forall_mem_append.mpr ⟨hs, hl'⟩)
    rw [receiveAll_snoc]
    rw [receiveAll_append] at hinv
    exact (ih hl').trans (receive_follows hinv x.1 (hl x (by simp)))

end

end Monitor

end BrowserPilot
