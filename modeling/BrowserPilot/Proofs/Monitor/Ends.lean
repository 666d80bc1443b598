import BrowserPilot.Proofs.Monitor.Stopping

/-!
# The ends of attempts

A run makes something of the record of a step when it begins an attempt, when an
attempt has ended and when it is wound up. What these moves keep of a record and
the attempts at its step, a whole run keeps.
-/

namespace BrowserPilot

/-- An attempt with its outcome; without one it has been cut short by a stop. -/
structure Ended where
  attempt : Attempt
  outcome : Option Outcome

namespace Step

def fault? (step : Step) (x : Ended) : Option StepFault :=
  match x.outcome with
  | some (.raised (.sessionInit _)) => none
  | some (.raised f) => some (f.asStepFault step.id)
  | _ => none

/-- Why an attempt is the end of the session: there is no browser, or no record of the step can hold the result. -/
def fatal? (step : Step) (x : Ended) : Option String :=
  match x.outcome with
  | some (.raised (.sessionInit message)) => some (Monitor.reasonOf (.sessionInit message))
  | some (.finished r) =>
    match (StepStatus.ofStep step).store x.attempt.action.kind r with
    | .ok _ => none
    | .error f => some (Monitor.reasonOf f)
  | _ => none

variable {step : Step} {a : Attempt} {x : Ended}

theorem fault?_raised {f : Fault} (hf : ∀ message, f ≠ .sessionInit message) :
    step.fault? ⟨a, some (.raised f)⟩ = some (f.asStepFault step.id) := by
  cases f with
  | sessionInit message => exact absurd rfl (hf message)
  | _ => rfl

theorem fatal?_unstored {st : StepStatus} {r : Result} {f : Fault} (h : st.store a.action.kind r = .error f) :
    step.fatal? ⟨a, some (.finished r)⟩ = some (Monitor.reasonOf f) := by
  have hstore : (StepStatus.ofStep step).store a.action.kind r = .error f := by
    unfold StepStatus.store at h ⊢
    split at h <;> first | exact h | cases h
  simp only [fatal?, hstore]

end Step

/-! ## What becomes of a record -/

/-- What the end of an attempt makes of the record of its step. -/
inductive StepStatus.Ends (p : Plan) (step : Step) (now : Instant) (st : StepStatus) (x : Ended) : StepStatus → Prop where
  | passed {r : Result} {st' : StepStatus} (hx : x.outcome = some (.finished r))
      (ho : st.store x.attempt.action.kind r = .ok st') : Ends p step now st x ((st'.passed x.attempt.fallback).closed now)
  | skipped {e : StepFault} (hx : step.fault? x = some e) (line : String) :
      Ends p step now st x ((st.faulted .skipped e.message line).closed now)
  | failed {e : StepFault} (hx : step.fault? x = some e) (line : String) :
      Ends p step now st x (st.faulted .failed e.message line)
  | exhausted {e : StepFault} (hx : step.fault? x = some e) (line : String) :
      Ends p step now st x ((st.faulted .failed e.message line).closed now)
  | undelayed {e : StepFault} {f : Fault} (hx : step.fault? x = some e) (hi : step.policy.ignoresErrors = false)
      (hn : x.attempt.number ≤ step.policy.retries) (hd : p.delay x.attempt.number e = .error f) (line : String) :
      Ends p step now st x ((st.faulted .failed e.message line).abandoned now (Monitor.reasonOf f))
  | fatal {reason : String} (hx : step.fatal? x = some reason) : Ends p step now st x (st.abandoned now reason)
  | stopped (hx : x.outcome = none) (line : String) :
      Ends p step now st x ((st.faulted .failed "stopped" line).closed now)

/-- What a move of a run makes of a record, with the attempt whose end it acts on. -/
inductive StepStatus.Moves (p : Plan) (step : Step) (now : Instant) (st : StepStatus) :
    Option Ended → StepStatus → Prop where
  | begun (hf : st.final = false) (hs : st.state = .pending) (line : String) :
      Moves p step now st none (st.begun now 1 line)
  | retried (hf : st.final = false) (hs : st.state = .failed) (line : String) :
      Moves p step now st none (st.begun now (st.retryCount + 2) line)
  | closed (hf : st.final = false) (hs : st.state = .failed) : Moves p step now st none (st.closed now)
  | wound (hs : st.startedAt = none) (reason : String) : Moves p step now st none (st.abandoned now reason)
  | ended {x : Ended} {st' : StepStatus} (hf : st.final = false) (hs : st.state = .running)
      (hn : x.attempt.number = st.retryCount + 1) (h : st.Ends p step now x st') : Moves p step now st (some x) st'

def endsAt (i : Nat) (ends : List Ended) : List Ended := ends.filter fun x => x.attempt.index == i

namespace Plan

/-- All moves keep what is said of a record and the ends of the attempts at its step. -/
def Upholds (p : Plan) (K : Step → List Ended → StepStatus → Prop) : Prop :=
  ∀ {step : Step} {ends : List Ended} {st st' : StepStatus} {x : Option Ended} {now : Instant},
    K step ends st → st.Moves p step now x st' → K step (ends ++ x.toList) st'

/-- It is so of every record. -/
def Keeps (p : Plan) (K : Step → List Ended → StepStatus → Prop) (ends : List Ended) (steps : List StepStatus) : Prop :=
  ∀ (i : Nat) (step : Step) (st : StepStatus), p.steps[i]? = some step → steps[i]? = some st → K step (endsAt i ends) st

section
variable {p : Plan} {K : Step → List Ended → StepStatus → Prop} (hK : p.Upholds K) {step : Step} {ends : List Ended}
  {done rest : List StepStatus} {st st' : StepStatus}

/-- The attempt that ends, if any, is at the step whose record changes. -/
theorem Keeps.replace (new : List Ended) (h : p.Keeps K ends (done ++ st :: rest))
    (hnew : ∀ x ∈ new, x.attempt.index = done.length)
    (hst : ∀ step, p.steps[done.length]? = some step → K step (endsAt done.length ends) st →
      K step (endsAt done.length ends ++ new) st') : p.Keeps K (ends ++ new) (done ++ st' :: rest) := by
  intro i step s hi hs
  have happend : endsAt i (ends ++ new) = endsAt i ends ++ endsAt i new := List.filter_append ..
  rw [happend]
  by_cases hplace : i = done.length
  · subst hplace
    have hall : endsAt done.length new = new := List.filter_eq_self.mpr fun x hx => by simp [hnew x hx]
    have hs' : st' = s := by simpa using hs
    rw [hall, ← hs']
    exact hst step hi (h _ step st hi (by simp))
  · have hnone : endsAt i new = [] := by
      refine List.filter_eq_nil_iff.mpr fun x hx => ?_
      rw [hnew x hx]
      simpa using Ne.symm hplace
    have hset : done ++ st' :: rest = (done ++ st :: rest).set done.length st' := by simp
    rw [hset, List.getElem?_set_ne (Ne.symm hplace)] at hs
    rw [hnone, List.append_nil]
    exact h i step s hi hs

include hK

theorem Keeps.revise (h : p.Keeps K ends (done ++ st :: rest)) (now : Instant)
    (hst : ∀ step, st.Moves p step now none st') : p.Keeps K ends (done ++ st' :: rest) := by
  have hrevised := h.replace [] (List.forall_mem_nil _) fun step _ hk => hK hk (hst step)
  rwa [List.append_nil] at hrevised

theorem Keeps.wind {post : List Step} (h : p.Keeps K ends (done ++ post.map StepStatus.ofStep)) (now : Instant)
    (reason : String) : p.Keeps K ends (done ++ (post.map StepStatus.ofStep).map (StepStatus.abandoned now reason)) := by
  intro i step s hi hs
  by_cases hlt : i < done.length
  · rw [List.getElem?_append_left hlt] at hs
    exact h i step s hi (by rw [List.getElem?_append_left hlt]; exact hs)
  · rw [List.getElem?_append_right (Nat.le_of_not_lt hlt), List.getElem?_map] at hs
    obtain ⟨s₀, hs₀, rfl⟩ := Option.map_eq_some_iff.mp hs
    have hkept := h i step s₀ hi (by rw [List.getElem?_append_right (Nat.le_of_not_lt hlt)]; exact hs₀)
    have hfresh : s₀.startedAt = none := by
      obtain ⟨_, _, rfl⟩ := List.mem_map.mp (List.mem_of_getElem? hs₀)
      rfl
    have hwound : s₀.Moves p step now none (s₀.abandoned now reason) := .wound hfresh reason
    simpa using hK hkept hwound

end

end Plan

/-! ## Moves -/

def Phase.ended? : Phase → Option Ended
  | .inFlight a (some o) | .inGrace a (some o) _ => some ⟨a, some o⟩
  | .inGrace a none true => some ⟨a, none⟩
  | _ => none

namespace Monitor

theorem ended?_idle {m : Monitor} (hi : m.isReady = false) : m.phase.ended? = none := by
  unfold isReady at hi
  cases hphase : m.phase with
  | inFlight a o => cases o <;> simp_all [Phase.ended?]
  | inGrace a o expired => cases o <;> cases expired <;> simp_all [Phase.ended?]
  | _ => rfl

theorem Sees.ended? {m : Monitor} {a : Attempt} {o : Outcome} (h : m.Sees a o) : m.phase.ended? = some ⟨a, some o⟩ := by
  rcases h with h | ⟨expired, h⟩ <;> rw [h] <;> rfl

section
variable {m : Monitor} {p : Plan} {K : Step → List Ended → StepStatus → Prop} (hK : p.Upholds K) {now : Moment}
  {a : Attempt} {step : Step} {post : List Step} {done : List StepStatus} {st : StepStatus} {ends : List Ended}
include hK

/-- The end of the step loop fails the steps that have not been tried. -/
theorem leaving_keeps (h : p.Keeps K ends m.session.steps) (hs : m.session.steps = done ++ post.map StepStatus.ofStep)
    (hd : ∀ st ∈ done, st.isTerminal = true) (now : Moment) :
    p.Keeps K ends (afterMove now (.ok (m, .leave))).session.steps := by
  have hpending : ∀ st ∈ post.map StepStatus.ofStep, st.isPending = true := by
    intro st hst
    obtain ⟨step, _, rfl⟩ := List.mem_map.mp hst
    rfl
  simp only [afterMove, finish_eq hs hd hpending, orRaised]
  rw [(ending_effect now hs).2.2]
  exact (hs ▸ h).wind hK now.wall notExecuted

theorem Before.leaving_keeps (hb : m.Before post done) (h : p.Keeps K ends m.session.steps) (now : Moment) :
    p.Keeps K ends (afterMove now (.ok (m, .leave))).session.steps := by
  obtain ⟨pre, _, hcut⟩ := hb
  exact Monitor.leaving_keeps hK h hcut.steps hcut.terminal now

theorem Enters.keeps {r : Monitor × Next} (he : Enters now m done post r) (hb : m.Before post done)
    (h : p.Keeps K ends m.session.steps) : p.Keeps K ends (afterMove now (.ok r)).session.steps := by
  cases he with
  | past => exact hb.leaving_keeps hK h now
  | stopped _ => exact (hb.stopping now).leaving_keeps hK (by rwa [stopping_steps]) now
  | paused _ _ => exact h
  | begun _ _ =>
    obtain ⟨pre, _, hcut⟩ := hb
    have hsteps : p.Keeps K ends (done ++ _ :: _) := hcut.steps ▸ h
    exact hsteps.revise hK now.wall fun _ => .begun rfl rfl _

theorem Advances.keeps {r : Monitor × Next} (hn : Advances now m post done st r)
    (h : p.Keeps K ends (done ++ st.closed now.wall :: post.map StepStatus.ofStep)) :
    p.Keeps K ends (afterMove now (.ok r)).session.steps :=
  hn.enters.keeps hK hn.before (by rwa [settling_steps])

theorem settling_keeps (hd : ∀ st ∈ done, st.isTerminal = true) (hst : st.state.isTerminal = true)
    (h : p.Keeps K ends (done ++ st.closed now.wall :: post.map StepStatus.ofStep)) :
    p.Keeps K ends (afterMove now (.ok (m.settling now done st (post.map StepStatus.ofStep), .leave))).session.steps := by
  have hsteps : (m.settling now done st (post.map StepStatus.ofStep)).session.steps =
      done ++ [st.closed now.wall] ++ post.map StepStatus.ofStep := by simp
  refine leaving_keeps hK (by rwa [settling_steps]) hsteps ?_ now
  intro s hs
  rcases List.mem_append.mp hs with hs | hs
  · exact hd s hs
  · rw [List.mem_singleton.mp hs]
    exact hst

theorem GivesUp.keeps {r : Monitor × Next} (hn : GivesUp now m post done st r) (hd : ∀ st ∈ done, st.isTerminal = true)
    (hst : st.state.isTerminal = true) (h : p.Keeps K ends (done ++ st.closed now.wall :: post.map StepStatus.ofStep)) :
    p.Keeps K ends (afterMove now (.ok r)).session.steps := by
  cases hn with
  | aborts _ => exact settling_keeps hK hd hst h
  | goesOn _ hn => exact hn.keeps hK h

/-! ### Moves at an attempt -/

section
variable (htry : m.Tries a step post done st) (hr : st.state = .running) (h : p.Keeps K ends m.session.steps)
include htry hr h

theorem Tries.replaced {o : Option Outcome} {st' : StepStatus} (hp : m.plan = p)
    (hst : st.Ends p step now.wall ⟨a, o⟩ st') :
    p.Keeps K (ends ++ [⟨a, o⟩]) (done ++ st' :: post.map StepStatus.ofStep) := by
  refine (htry.here.steps ▸ h).replace [⟨a, o⟩] (fun x hx => ?_) fun step' hstep' hk => ?_
  · rw [List.mem_singleton.mp hx]
    exact htry.index
  · rw [← hp, htry.here.step_eq] at hstep'
    cases hstep'
    exact hK hk (.ended htry.here.isOpen.final hr htry.number.symm hst)

/-- A fault that is no matter of the step fails it and all steps behind it. -/
theorem Tries.halted {o : Option Outcome} {st' : StepStatus} {f : Fault} {m' : Monitor} (hp : m.plan = p)
    (hat : m'.At step post done st') (hst : st.Ends p step now.wall ⟨a, o⟩ (st'.abandoned now.wall (reasonOf f))) :
    p.Keeps K (ends ++ [⟨a, o⟩]) (afterMove now (.error ⟨m', f⟩)).session.steps := by
  have hsplit (rest : List StepStatus) : done ++ st'.abandoned now.wall (reasonOf f) :: rest =
      done ++ [st'.abandoned now.wall (reasonOf f)] ++ rest := List.append_cons ..
  have hreplaced := htry.replaced hK hr h hp hst
  rw [hsplit] at hreplaced
  rw [hat.abandoned_steps now f, hsplit]
  exact hreplaced.wind hK now.wall (reasonOf f)

theorem Fails.keeps {f : Fault} {r : Except Halt (Monitor × Next)} (hp : m.plan = p)
    (hf : ∀ message, f ≠ .sessionInit message) (hn : Fails now m a step post done st (f.asStepFault step.id) r) :
    p.Keeps K (ends ++ [⟨a, some (.raised f)⟩]) (afterMove now r).session.steps := by
  have hx : step.fault? ⟨a, some (.raised f)⟩ = some (f.asStepFault step.id) := Step.fault?_raised hf
  cases hn with
  | skipped _ hn => exact hn.keeps hK (htry.replaced hK hr h hp (.skipped hx _))
  | retrying _ _ _ _ =>
    have hends (line : String) : st.Ends p step now.wall ⟨a, some (.raised f)⟩ _ := .failed hx line
    exact htry.replaced hK hr h hp (hends _)
  | undelayed hi hn _ hd =>
    exact htry.halted hK hr h hp (htry.here.failing a _) (.undelayed (x := ⟨a, some (.raised f)⟩) hx hi hn (hp ▸ hd) _)
  | exhausted _ _ hn =>
    obtain ⟨pre, _, hcut⟩ := htry.here
    exact hn.keeps hK hcut.terminal rfl (htry.replaced hK hr h hp (.exhausted hx _))

end

/-- **A turn keeps what its moves keep**: the attempt whose end it acts on, if
there is one, becomes the last one of its step. -/
theorem Turns.keeps {c : Control} {r : Except Halt (Monitor × Next)} (ht : Turns now m r) (hinv : m.Inv p c)
    (h : p.Keeps K ends m.session.steps) :
    p.Keeps K (ends ++ m.phase.ended?.toList) (afterMove now r).session.steps := by
  have hp := hinv.plan
  have hph := hinv.phase
  -- a move either acts on no end of an attempt, or on the end of the one at hand
  have hnone (ho : m.phase.ended? = none) (hr : p.Keeps K ends (afterMove now r).session.steps) :
      p.Keeps K (ends ++ m.phase.ended?.toList) (afterMove now r).session.steps := by
    rw [ho, Option.toList_none, List.append_nil]
    exact hr
  have hsome {x : Ended} (hx : m.phase.ended? = some x) (hr : p.Keeps K (ends ++ [x]) (afterMove now r).session.steps) :
      p.Keeps K (ends ++ m.phase.ended?.toList) (afterMove now r).session.steps := by
    rw [hx]
    exact hr
  cases ht with
  | idle hi => exact hnone (ended?_idle hi) h
  | unparked hphase _ =>
    rw [hphase] at hph
    obtain ⟨_, pre, post, done, hpost, _, hcut⟩ := hph
    have hbefore : m.Before post done := ⟨pre, hp ▸ hpost, hcut⟩
    exact hnone (by rw [hphase]; rfl) ((hbefore.stopping now).leaving_keeps hK (by rwa [stopping_steps]) now)
  | resumedPast hphase _ _ =>
    rw [hphase] at hph
    obtain ⟨_, pre, post, done, _, _, hcut⟩ := hph
    exact hnone (by rw [hphase]; rfl) (leaving_keeps hK (m := m.resuming now) h hcut.steps hcut.terminal now)
  | resumed hphase _ _ hat =>
    have hsteps := hat.steps ▸ h
    exact hnone (by rw [hphase]; rfl) (hsteps.revise hK now.wall fun _ => .begun rfl rfl _)
  | retried hphase _ htry hf =>
    have hsteps := htry.here.steps ▸ h
    refine hnone (by rw [hphase]; rfl) (hsteps.revise hK now.wall fun _ => ?_)
    rw [← htry.number]
    exact .retried htry.here.isOpen.final hf _
  | graced hphase _ _ _ =>
    have hsteps : p.Keeps K ends (m.stopping now).session.steps := by rwa [stopping_steps]
    exact hnone (by rw [hphase]; rfl) hsteps
  | passed hs htry hr ho hn => exact hsome hs.ended? (hn.keeps hK (htry.replaced hK hr h hp (.passed rfl ho)))
  | unstored hs htry hr ho =>
    exact hsome hs.ended? (htry.halted hK hr h hp htry.here (.fatal (Step.fatal?_unstored ho)))
  | lost hs htry hr => exact hsome hs.ended? (htry.halted hK hr h hp htry.here (.fatal rfl))
  | failed hs hf htry hr hn => exact hsome hs.ended? (hn.keeps hK htry hr h hp hf)
  | cancelled hphase htry hr =>
    obtain ⟨pre, _, hcut⟩ := htry.here
    exact hsome (by rw [hphase]; rfl) (settling_keeps hK hcut.terminal rfl (htry.replaced hK hr h hp (.stopped rfl _)))
  | deserted hphase _ htry hf hn =>
    obtain ⟨pre, _, hcut⟩ := htry.here
    have hclosed := (htry.here.steps ▸ h).revise hK now.wall fun _ => .closed htry.here.isOpen.final hf
    exact hnone (by rw [hphase]; rfl) (hn.keeps hK hcut.terminal (by rw [hf]; rfl) hclosed)

end

/-! ## Runs -/

def ended (m : Monitor) : Signal → List Ended
  | .turn => m.phase.ended?.toList
  | _ => []

def ends : Monitor → List (Moment × Signal) → List Ended
  | _, [] => []
  | m, x :: signals => m.ended x.2 ++ (m.receive x.1 x.2).ends signals

theorem ended_heard {m : Monitor} {s : Signal} {ph : Phase} (h : m.phase.Hears s ph) : m.ended s = [] := by
  generalize m.phase = ph₀ at h
  cases h <;> rfl

theorem ended_missed {m : Monitor} {s : Signal} (h : m.Misses s) : m.ended s = [] := by
  cases s with
  | turn => rw [ended, ended?_idle h, Option.toList_none]
  | _ => rfl

section
variable {m : Monitor} {p : Plan} {K : Step → List Ended → StepStatus → Prop} (hK : p.Upholds K) {ends : List Ended}
include hK

theorem Reached.keeps (hm : m.Reached p) (h : p.Keeps K ends m.session.steps) (now : Moment) {s : Signal}
    (hs : s.isOfRun = true) : p.Keeps K (ends ++ m.ended s) (m.receive now s).session.steps := by
  have hsame {s : Signal} (hended : m.ended s = []) : p.Keeps K (ends ++ m.ended s) m.session.steps := by
    rw [hended, List.append_nil]
    exact h
  have hreceives := receive_receives hm.inv now hs
  generalize m.receive now s = m' at hreceives
  cases hreceives with
  | called _ | closed _ _ => exact hsame rfl
  | halted =>
    rw [stopping_steps]
    exact hsame rfl
  | begun _ _ _ hb he _ =>
    have hstarted := he.keeps hK hb h
    rw [← List.append_nil ends] at hstarted
    exact hstarted
  | turned hinv _ ht _ => exact ht.keeps hK hinv h
  | heard hh => exact hsame (ended_heard hh)
  | missed hmiss => exact hsame (ended_missed hmiss)

/-- **A run keeps what its moves keep.** -/
theorem receiveAll_keeps (signals : List (Moment × Signal)) : ∀ {m : Monitor} {ends : List Ended}, m.Reached p →
    (∀ x ∈ signals, x.2.isOfRun = true) → p.Keeps K ends m.session.steps →
      p.Keeps K (ends ++ m.ends signals) (m.receiveAll signals).session.steps := by
  induction signals with
  | nil =>
    intro m ends _ _ h
    rw [Monitor.ends, List.append_nil]
    exact h
  | cons x signals ih =>
    intro m ends hm hs h
    have hx := hs x (by simp)
    rw [Monitor.ends, ← List.append_assoc, receiveAll_cons]
    exact ih (hm.receive x.1 hx) (fun y hy => hs y (by simp [hy])) (hm.keeps hK h x.1 hx)

end

end Monitor

end BrowserPilot
