import BrowserPilot.Proofs.Monitor.Rest

/-!
# What a run performs

All that a run asks the browser to perform are attempts at its steps, each as
the step at its place makes it.
-/

namespace BrowserPilot

/-- The attempt that a run is at, or that it has made last at its step. -/
def Phase.current? : Phase → Option Attempt
  | .inFlight a _ | .inGrace a _ _ | .backingOff a _ => some a
  | _ => none

theorem Phase.Hears.current? {ph ph' : Phase} {s : Signal} (h : ph.Hears s ph') : ph'.current? = ph.current? := by
  cases h <;> rfl

def Plan.Makes (p : Plan) (a : Attempt) : Prop :=
  ∃ step, p.steps[a.index]? = some step ∧ (a.action, a.fallback) = step.attempt a.number

namespace Monitor

structure Performs (p : Plan) (m : Monitor) : Prop where
  current : ∀ a, m.phase.current? = some a → p.Makes a
  asked : ∀ x, .perform x ∈ m.asked → ∃ a, p.Makes a ∧ a.action = x

section
variable {m m' : Monitor} {p : Plan} {now : Moment} {step : Step} {post : List Step} {done : List StepStatus} {st : StepStatus}

theorem Performs.congr (h : m.Performs p) (hc : ∀ a, m'.phase.current? = some a → m.phase.current? = some a)
    (hr : ∀ x, .perform x ∈ m'.asked → .perform x ∈ m.asked) : m'.Performs p :=
  ⟨fun a ha => h.current a (hc a ha), fun x hx => h.asked x (hr x hx)⟩

theorem not_perform_mem {r : Request} (hr : r.isPerform = false) {asked : List Request} {x : Action}
    (h : .perform x ∈ asked ++ [r]) : .perform x ∈ asked := by
  rcases List.mem_append.mp h with h | h
  · exact h
  · rw [← List.mem_singleton.mp h] at hr
    cases hr

theorem Performs.stopping (h : m.Performs p) (now : Moment) : (m.stopping now).Performs p :=
  h.congr (fun a ha => by rwa [stopping_phase] at ha) fun x hx => by rwa [Monitor.asked, stopping_requests] at hx

theorem Performs.attempting (h : m.Performs p) (hstep : p.steps[done.length]? = some step) (now : Moment) (number : Nat)
    (rest : List StepStatus) : (m.attempting now step number done st rest).Performs p := by
  have hmakes : p.Makes ⟨done.length, number, (step.attempt number).1, (step.attempt number).2⟩ := ⟨step, hstep, rfl⟩
  refine ⟨fun a ha => Option.some.inj ha ▸ hmakes, fun x hx => ?_⟩
  have hasked : (m.attempting now step number done st rest).asked = m.asked ++ [.perform (step.attempt number).1] :=
    List.map_append ..
  rw [hasked] at hx
  rcases List.mem_append.mp hx with hx | hx
  · exact h.asked x hx
  · exact ⟨_, hmakes, (Request.perform.inj (List.mem_singleton.mp hx)).symm⟩

theorem Performs.backingOff (h : m.Performs p) {a : Attempt} (ha : p.Makes a) (now : Moment) (step : Step) (e : StepFault)
    (delay : Amount) : (m.backingOff now a step e delay).Performs p := by
  have hasked : (m.backingOff now a step e delay).asked = m.asked ++ [.sleep delay] := List.map_append ..
  exact ⟨fun b hb => Option.some.inj hb ▸ ha, fun x hx => h.asked x (not_perform_mem rfl (hasked ▸ hx))⟩

theorem Performs.gracing (h : m.Performs p) {a : Attempt} (ha : p.Makes a) (now : Moment) : (m.gracing now a).Performs p := by
  have hasked : (m.gracing now a).asked = (m.stopping now).asked ++ [.grace m.plan.grace] := by
    simp [Monitor.asked, Monitor.gracing, request, emit, stopping_plan]
  exact ⟨fun b hb => Option.some.inj hb ▸ ha, fun x hx => (h.stopping now).asked x (not_perform_mem rfl (hasked ▸ hx))⟩

/-! ## Moves -/

theorem Enters.performs {r : Monitor × Next} (h : Enters now m done post r) (hb : m.Before post done) (hm : m.Performs m.plan) :
    r.1.Performs m.plan := by
  obtain ⟨pre, hpost, hcut⟩ := hb
  have hstep := hcut.step_eq hpost
  cases h with
  | past => exact hm
  | stopped _ => exact hm.stopping now
  | paused _ _ => exact hm.congr (fun a ha => by cases ha) fun x hx => hx
  | begun _ _ => exact hm.attempting hstep ..

theorem Advances.performs {r : Monitor × Next} (h : Advances now m post done st r) (hm : m.Performs m.plan) :
    r.1.Performs m.plan :=
  h.enters.performs h.before (hm.congr (fun _ ha => ha) fun _ hx => hx)

theorem GivesUp.performs {r : Monitor × Next} (h : GivesUp now m post done st r) (hm : m.Performs m.plan) :
    r.1.Performs m.plan := by
  cases h with
  | aborts _ => exact hm.congr (fun _ ha => ha) fun _ hx => hx
  | goesOn _ h => exact h.performs hm

theorem Fails.performs {a : Attempt} {e : StepFault} {r : Except Halt (Monitor × Next)} (h : Fails now m a step post done st e r)
    (ha : m.plan.Makes a) (hm : m.Performs m.plan) : (leftBy r).Performs m.plan := by
  have hfailing : (m.failing done st (post.map StepStatus.ofStep) a e).Performs m.plan :=
    hm.congr (fun _ ha => ha) fun _ hx => hx
  cases h with
  | skipped _ h => exact h.performs hm
  | retrying _ _ _ _ => exact hfailing.backingOff ha ..
  | undelayed _ _ _ _ => exact hfailing
  | exhausted _ _ h => exact h.performs hfailing

theorem Sees.current? {a : Attempt} {o : Outcome} (h : m.Sees a o) : m.phase.current? = some a := by
  rcases h with h | ⟨expired, h⟩ <;> rw [h] <;> rfl

/-- **A turn performs** nothing but attempts at the steps of the plan. -/
theorem Turns.performs {r : Except Halt (Monitor × Next)} (h : Turns now m r) (hm : m.Performs m.plan) :
    (leftBy r).Performs m.plan := by
  cases h with
  | idle _ | unstored _ _ _ _ | lost _ _ _ => exact hm
  | unparked _ _ => exact hm.stopping now
  | resumed _ _ _ h =>
    have hresuming : (m.resuming now).Performs m.plan := hm.congr (fun _ ha => ha) fun _ hx => hx
    exact hresuming.attempting h.step_eq ..
  | resumedPast _ _ _ => exact hm.congr (fun _ ha => ha) fun _ hx => hx
  | passed _ _ _ _ h => exact h.performs hm
  | failed hs _ _ _ h => exact h.performs (hm.current _ hs.current?) hm
  | graced hph _ _ _ => exact hm.gracing (hm.current _ (by rw [hph]; rfl)) now
  | cancelled _ _ _ => exact hm.congr (fun _ ha => ha) fun _ hx => hx
  | deserted _ _ _ _ h =>
    have hplan := stopping_plan now m
    exact hplan ▸ h.performs (hplan.symm ▸ hm.stopping now)
  | retried _ _ h _ => exact hm.attempting h.here.step_eq ..

/-! ## Runs -/

theorem Performs.afterMove {c : Control} {r : Except Halt (Monitor × Next)} (h : (leftBy r).Performs p) (hl : Lands p c r)
    (now : Moment) : (afterMove now r).Performs p := by
  by_cases hq : Quits r
  · obtain ⟨hphase, hreq⟩ := afterMove_quits now hl hq
    refine h.congr (fun a ha => ?_) fun x hx => ?_
    · rw [hphase] at ha
      split at ha <;> cases ha
    · rw [Monitor.asked, hreq, List.map_append] at hx
      split at hx
      · exact not_perform_mem rfl hx
      · simpa [Monitor.asked] using hx
  · rw [afterMove_waits now hq]
    exact h

theorem Performs.receive (h : m.Performs p) (hreached : m.Reached p) (now : Moment) {s : Signal} (hs : s.isOfRun = true) :
    (m.receive now s).Performs p := by
  have hcontrol (call : ControlCall) : (m.applyControl call).Performs p :=
    h.congr (fun a ha => (applyControl_ofPhase Phase.current? (fun _ _ _ => rfl) m call).symm.trans ha) fun _ hx => hx
  have hreceives := receive_receives hreached.inv now hs
  generalize m.receive now s = m' at hreceives
  obtain rfl := hreached.plan
  cases hreceives with
  | called call => exact hcontrol call
  | halted => exact (hcontrol .stop).stopping now
  | begun _ _ _ hb he hl => exact (he.performs hb (h.congr (fun _ ha => ha) fun _ hx => hx)).afterMove hl now
  | turned _ _ ht hl => exact (ht.performs h).afterMove hl now
  | heard hh => exact h.congr (fun a ha => hh.current?.symm.trans ha) fun _ hx => hx
  | closed _ _ => exact h.congr (fun a ha => by cases ha) fun _ hx => hx
  | missed _ => exact h

/-- **A run performs nothing but attempts at its steps.** -/
theorem receiveAll_performs {start : Instant} {id taskName : String} {c : Control} (hm : create start id taskName p c = .ok m)
    (signals : List (Moment × Signal)) (hs : ∀ x ∈ signals, x.2.isOfRun = true) : (m.receiveAll signals).Performs p := by
  induction signals using List.reverseRecOn with
  | nil =>
    show m.Performs p
    rw [create_eq hm]
    exact ⟨nofun, nofun⟩
  | append_singleton signals x ih =>
    have hbefore : ∀ y ∈ signals, y.2.isOfRun = true := fun y hy => hs y (by simp [hy])
    rw [receiveAll_snoc]
    exact (ih hbefore).receive ((create_reached hm).receiveAll signals hbefore) x.1 (hs x (by simp))

end

end Monitor

end BrowserPilot
