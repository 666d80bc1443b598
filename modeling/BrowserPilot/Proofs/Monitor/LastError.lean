import BrowserPilot.Proofs.Monitor.Ends

/-!
# The error of a failed step

A failed step tells how the last attempt at it ended, with one exception. An
attempt that was the end of the session leaves its reason only if no attempt
before has left a message.
-/

namespace BrowserPilot

/-! ## Messages of attempts -/

namespace Step

/-- The message of the last attempt, if the policy of the step has dealt with it. -/
def lastMessage (step : Step) (ends : List Ended) : Option String :=
  (ends.getLast?.bind step.fault?).map (·.message)

/-- An attempt was the end of the session, and the one before it has left another message. -/
def IsOvershadowed (step : Step) (before : List Ended) (x : Ended) : Prop :=
  ∃ reason message, step.fatal? x = some reason ∧ step.lastMessage before = some message ∧
    message ≠ "" ∧ message ≠ reason

variable {step : Step} {x : Ended}

/-- An attempt is a matter of the step or of the session, never of both. -/
theorem fatal?_of_fault? {e : StepFault} (h : step.fault? x = some e) : step.fatal? x = none := by
  unfold fault? at h
  unfold fatal?
  split at h <;> simp_all

theorem lastMessage_snoc (before : List Ended) {e : StepFault} (h : step.fault? x = some e) :
    step.lastMessage (before ++ [x]) = some e.message := by
  simp [lastMessage, h]

end Step

/-- What tells of the end of an attempt at a step: the message of its fault, or
that it was stopped, or why it was the end of the session, be it that no delay
to the next attempt could be found. -/
inductive Plan.Describes (p : Plan) (step : Step) (x : Ended) : String → Prop
  | stopped (h : x.outcome = none) : Describes p step x "stopped"
  | fault {e : StepFault} (h : step.fault? x = some e) : Describes p step x e.message
  | fatal {reason : String} (h : step.fatal? x = some reason) : Describes p step x reason
  | undelayed {e : StepFault} {f : Fault} (h : step.fault? x = some e) (hi : step.policy.ignoresErrors = false)
      (hn : x.attempt.number ≤ step.policy.retries) (hd : p.delay x.attempt.number e = .error f) :
      Describes p step x (Monitor.reasonOf f)

theorem Plan.Describes.eq_of_fatal {p : Plan} {step : Step} {x : Ended} {reason e : String}
    (h : p.Describes step x e) (hx : step.fatal? x = some reason) : e = reason := by
  cases h with
  | stopped h => simp [Step.fatal?, h] at hx
  | fault h | undelayed h _ _ _ => cases (Step.fatal?_of_fault? h).symm.trans hx
  | fatal h => exact Option.some.inj (h.symm.trans hx)

/-! ## What a record tells of them -/

/-- The record of a failed step tells of its last attempt. -/
structure StepStatus.Tells (p : Plan) (step : Step) (before : List Ended) (x : Ended) (st : StepStatus) (e : String) :
    Prop where
  number : x.attempt.number = st.retryCount + 1
  error : st.error = some e
  described : ¬step.IsOvershadowed before x → p.Describes step x e
  overshadowed : step.IsOvershadowed before x → step.lastMessage before = some e

/-- What a record keeps of the attempts at its step: an open one the message
of the last of them, and that of a failed step what this attempt ended with. -/
structure StepStatus.Recalls (p : Plan) (step : Step) (ends : List Ended) (st : StepStatus) : Prop where
  error : st.final = false → st.error = step.lastMessage ends
  tried : st.final = false → st.state = .failed →
    ∃ before x e, ends = before ++ [x] ∧ x.attempt.number = st.retryCount + 1 ∧ step.fault? x = some e
  failed : st.final = true → st.state = .failed → st.startedAt.isSome = true →
    ∃ before x e, ends = before ++ [x] ∧ st.Tells p step before x e

namespace StepStatus

variable {p : Plan} {step : Step} {ends : List Ended} {st : StepStatus}

theorem Tells.of_described {before : List Ended} {x : Ended} {e : String} (hn : x.attempt.number = st.retryCount + 1)
    (he : st.error = some e) (hd : p.Describes step x e) (hx : step.fatal? x = none) : st.Tells p step before x e := by
  refine ⟨hn, he, fun _ => hd, fun hover => ?_⟩
  obtain ⟨reason, _, hr, _⟩ := hover
  cases hx.symm.trans hr

theorem Recalls.of_final (hf : st.final = true) (h : st.state ≠ .failed ∨ st.startedAt = none) :
    st.Recalls p step ends := by
  have hopen {q : Prop} (ho : st.final = false) : q := by cases hf.symm.trans ho
  refine ⟨hopen, hopen, fun _ hfailed hstarted => ?_⟩
  rcases h with h | h
  · exact absurd hfailed h
  · rw [h] at hstarted
    cases hstarted

theorem Recalls.of_tells {x : Ended} {e : String} (hf : st.final = true) (h : st.Tells p step ends x e) :
    st.Recalls p step (ends ++ [x]) := by
  have hopen {q : Prop} (ho : st.final = false) : q := by cases hf.symm.trans ho
  exact ⟨hopen, hopen, fun _ _ _ => ⟨ends, x, e, rfl, h⟩⟩

theorem recalls_ofStep (s : Step) : (ofStep s).Recalls p step [] :=
  ⟨fun _ => rfl, fun _ => nofun, nofun⟩

section
variable (h : st.Recalls p step ends) (hf : st.final = false)
include h hf

theorem Recalls.begun (now : Instant) (number : Nat) (line : String) :
    (st.begun now number line).Recalls p step ends := by
  have hc : (st.counted number).final = false ∧ (st.counted number).error = st.error := by
    unfold counted
    split <;> exact ⟨hf, rfl⟩
  refine ⟨fun _ => hc.2.trans (h.error hf), fun _ => nofun, fun ht => ?_⟩
  cases hc.1.symm.trans ht

theorem Recalls.closed (now : Instant) (hs : st.state = .failed) : (st.closed now).Recalls p step ends := by
  obtain ⟨before, x, e, rfl, hn, hx⟩ := h.tried hf hs
  refine .of_tells rfl (.of_described hn ?_ (.fault hx) (Step.fatal?_of_fault? hx))
  exact (h.error hf).trans (Step.lastMessage_snoc before hx)

omit h in
theorem recalls_faulted {x : Ended} (hn : x.attempt.number = st.retryCount + 1) {e : StepFault}
    (hx : step.fault? x = some e) (line : String) :
    (st.faulted .failed e.message line).Recalls p step (ends ++ [x]) := by
  refine ⟨fun _ => (Step.lastMessage_snoc ends hx).symm, fun _ _ => ⟨ends, x, e, rfl, hn, hx⟩, fun ht => ?_⟩
  cases hf.symm.trans ht

omit h hf in
theorem recalls_stopped {x : Ended} (hn : x.attempt.number = st.retryCount + 1) (hx : x.outcome = none) (now : Instant)
    (line : String) : ((st.faulted .failed "stopped" line).closed now).Recalls p step (ends ++ [x]) :=
  .of_tells rfl (.of_described hn rfl (.stopped hx) (by simp [Step.fatal?, hx]))

/-- An attempt that is the end of the session leaves its reason, unless there is a message already. -/
theorem Recalls.abandoned {x : Ended} (hn : x.attempt.number = st.retryCount + 1) {reason : String}
    (hx : step.fatal? x = some reason) (now : Instant) : (st.abandoned now reason).Recalls p step (ends ++ [x]) := by
  have herror : (st.abandoned now reason).error = some (st.errorOr reason) := rfl
  have hdescribes : p.Describes step x reason := .fatal hx
  cases hlast : step.lastMessage ends with
  | none =>
    rw [errorOr, h.error hf, hlast] at herror
    refine .of_tells rfl ⟨hn, herror, fun _ => hdescribes, fun hover => ?_⟩
    obtain ⟨_, _, _, hm, _⟩ := hover
    cases hlast.symm.trans hm
  | some message =>
    rw [errorOr, h.error hf, hlast] at herror
    by_cases hempty : message = ""
    · subst hempty
      refine .of_tells rfl ⟨hn, herror, fun _ => hdescribes, fun hover => ?_⟩
      obtain ⟨_, _, _, hm, hne, _⟩ := hover
      exact absurd (Option.some.inj (hm.symm.trans hlast)) hne
    · have hkept : (st.abandoned now reason).error = some message := by simpa [hempty] using herror
      refine .of_tells rfl ⟨hn, hkept, fun hno => ?_, fun _ => hlast⟩
      by_cases heq : message = reason
      · exact heq ▸ hdescribes
      · exact absurd ⟨reason, message, hx, hlast, hempty, heq⟩ hno

omit h hf in
/-- A failed attempt behind which no delay could be found; an empty message gives way to the reason. -/
theorem recalls_undelayed {x : Ended} (hn : x.attempt.number = st.retryCount + 1) {e : StepFault} {f : Fault}
    (hx : step.fault? x = some e) (hi : step.policy.ignoresErrors = false) (hr : x.attempt.number ≤ step.policy.retries)
    (hd : p.delay x.attempt.number e = .error f) (now : Instant) (line : String) :
    ((st.faulted .failed e.message line).abandoned now (Monitor.reasonOf f)).Recalls p step (ends ++ [x]) := by
  have herror : ((st.faulted .failed e.message line).abandoned now (Monitor.reasonOf f)).error =
      some (if e.message.isEmpty then Monitor.reasonOf f else e.message) := rfl
  refine .of_tells rfl (.of_described hn herror ?_ (Step.fatal?_of_fault? hx))
  split
  · exact .undelayed hx hi hr hd
  · exact .fault hx

end

end StepStatus

def Plan.Recalls (p : Plan) (ends : List Ended) (steps : List StepStatus) : Prop :=
  ∀ (i : Nat) (step : Step) (st : StepStatus), p.steps[i]? = some step → steps[i]? = some st →
    st.Recalls p step (endsAt i ends)

theorem Plan.recalls_upheld (p : Plan) : p.Upholds fun step ends st => st.Recalls p step ends := by
  intro step ends st st' x now h hm
  cases hm with
  | begun hf _ line | retried hf _ line => simpa using h.begun hf now _ line
  | closed hf hs => simpa using h.closed hf now hs
  | wound hs reason => exact .of_final rfl (.inr hs)
  | ended hf _ hn hends =>
    cases hends with
    | passed _ _ | skipped _ _ => exact .of_final rfl (.inl StepState.noConfusion)
    | failed hx line => exact StepStatus.recalls_faulted hf hn hx line
    | exhausted hx line =>
      exact .of_tells rfl (.of_described hn rfl (.fault hx) (Step.fatal?_of_fault? hx))
    | undelayed hx hi hr hd line => exact StepStatus.recalls_undelayed hn hx hi hr hd now line
    | fatal hx => exact h.abandoned hf hn hx now
    | stopped hx line => exact StepStatus.recalls_stopped hn hx now line

namespace Monitor

/-- **A run keeps what the records tell.** -/
theorem receiveAll_recalls {m : Monitor} {p : Plan} {ends : List Ended} (signals : List (Moment × Signal))
    (hm : m.Reached p) (hs : ∀ x ∈ signals, x.2.isOfRun = true) (h : p.Recalls ends m.session.steps) :
    p.Recalls (ends ++ m.ends signals) (m.receiveAll signals).session.steps :=
  receiveAll_keeps p.recalls_upheld signals hm hs h

/-- **A failed step tells how its last attempt ended**, unless this attempt was
the end of the session and the one before it has left another message: then
that message stays. -/
theorem last_error_told_iff {now : Instant} {id taskName : String} {plan : Plan} {control : Control} {m : Monitor}
    (hm : create now id taskName plan control = .ok m) {signals : List (Moment × Signal)}
    (hs : ∀ x ∈ signals, x.2.isOfRun = true) {i : Nat} {step : Step} {st : StepStatus}
    (hstep : plan.steps[i]? = some step) (hst : (m.receiveAll signals).session.steps[i]? = some st)
    (hfinal : st.final = true) (hfailed : st.state = .failed) (htried : st.startedAt.isSome = true) :
    ∃ before x e, endsAt i (m.ends signals) = before ++ [x] ∧ x.attempt.number = st.retryCount + 1 ∧ st.error = some e ∧
      (plan.Describes step x e ↔ ¬step.IsOvershadowed before x) ∧
        (step.IsOvershadowed before x → step.lastMessage before = some e) := by
  have hbegin : plan.Recalls [] m.session.steps := by
    intro j s t _ ht
    rw [create_eq hm] at ht
    obtain ⟨s', _, rfl⟩ := List.mem_map.mp (List.mem_of_getElem? ht)
    exact StepStatus.recalls_ofStep s'
  have hrun := receiveAll_recalls signals (create_reached hm) hs hbegin
  obtain ⟨before, x, e, hends, htells⟩ := (hrun i step st hstep hst).failed hfinal hfailed htried
  refine ⟨before, x, e, hends, htells.number, htells.error, ⟨fun hd hover => ?_, htells.described⟩, htells.overshadowed⟩
  have hkept := htells.overshadowed hover
  obtain ⟨reason, message, hreason, hmessage, _, hne⟩ := hover
  have heq : message = e := Option.some.inj (hmessage.symm.trans hkept)
  exact hne (heq.trans (hd.eq_of_fatal hreason))

private def retriedClick : Plan where
  steps := [⟨"step-1", 1, .click "#a", [], { retries := 1 }⟩]
  delay _ _ := .ok (.part (.ofNat 1))

private def openingHour : Moment := .ofSeconds (.ofNat 0)

private def freshRetriedClick : Monitor :=
  { plan := retriedClick, session := .ofSteps openingHour.wall "session" "task" retriedClick.steps }

private def failingTwice (f : Fault) : List (Moment × Signal) :=
  [.start, .outcome (.raised (.step (.elementNotFound "#a" ""))), .turn, .timeUp, .turn, .outcome (.raised f), .turn].map
    (openingHour, ·)

private def firstClick : Ended := ⟨⟨0, 1, .click "#a", none⟩, some (.raised (.step (.elementNotFound "#a" "")))⟩

private def secondClick (f : Fault) : Ended := ⟨⟨0, 2, .click "#a", none⟩, some (.raised f)⟩

private theorem failingTwice_isOfRun (f : Fault) : ∀ x ∈ failingTwice f, x.2.isOfRun = true := by
  simp [failingTwice, Signal.isOfRun]

private theorem only_record {m : Monitor} {α : Type} {f : StepStatus → α} {y : α} (h : m.session.steps.map f = [y]) :
    ∃ st, m.session.steps[0]? = some st ∧ f st = y := by
  obtain ⟨st, hsteps, hst⟩ := List.map_eq_singleton_iff.mp h
  exact ⟨st, by rw [hsteps]; rfl, hst⟩

theorem last_error_told_iff_tornDown : create openingHour.wall "session" "task" retriedClick {} = .ok freshRetriedClick ∧
    let torn : Fault := .browser false "Target closed"
    let left := freshRetriedClick.receiveAll (failingTwice torn)
    (∀ x ∈ failingTwice torn, x.2.isOfRun = true) ∧ ∃ step st, retriedClick.steps[0]? = some step ∧
      left.session.steps[0]? = some st ∧ st.final = true ∧ st.state = .failed ∧ st.startedAt.isSome = true ∧
        endsAt 0 (freshRetriedClick.ends (failingTwice torn)) = [firstClick] ++ [secondClick torn] ∧
          ∃ e, st.error = some e ∧ retriedClick.Describes step (secondClick torn) e := by
  have hcreate : create openingHour.wall "session" "task" retriedClick {} = .ok freshRetriedClick := rfl
  have hrun := failingTwice_isOfRun (.browser false "Target closed")
  have hleft : (freshRetriedClick.receiveAll (failingTwice (.browser false "Target closed"))).session.steps.map
      (fun st => (st.final, st.state, st.startedAt.isSome)) = [(true, .failed, true)] := by rfl
  have hends : endsAt 0 (freshRetriedClick.ends (failingTwice (.browser false "Target closed"))) =
      [firstClick] ++ [secondClick (.browser false "Target closed")] := by rfl
  obtain ⟨st, hrecord, hst⟩ := only_record hleft
  simp only [Prod.mk.injEq] at hst
  obtain ⟨hfinal, hfailed, htried⟩ := hst
  obtain ⟨before, x, e, hlast, _, he, hiff, _⟩ :=
    last_error_told_iff hcreate hrun (i := 0) rfl hrecord hfinal hfailed htried
  obtain ⟨rfl, hx⟩ := List.append_inj' (hends.symm.trans hlast) rfl
  cases hx
  refine ⟨hcreate, hrun, _, st, rfl, hrecord, hfinal, hfailed, htried, hends, e, he, hiff.mpr ?_⟩
  -- a browser that is torn down is a matter of the step
  rintro ⟨_, _, hreason, _⟩
  cases hreason

/-- The browser is lost in the second attempt, and the step still tells of the first. -/
theorem lost_browser_untold : create openingHour.wall "session" "task" retriedClick {} = .ok freshRetriedClick ∧
    let lost : Fault := .sessionInit "browser crashed"
    let left := freshRetriedClick.receiveAll (failingTwice lost)
    (∀ x ∈ failingTwice lost, x.2.isOfRun = true) ∧ left.phase = .finished ∧
      ∃ step st, retriedClick.steps[0]? = some step ∧ left.session.steps[0]? = some st ∧
        st.final = true ∧ st.state = .failed ∧ endsAt 0 (freshRetriedClick.ends (failingTwice lost)) = [firstClick] ++ [secondClick lost] ∧
          retriedClick.Describes step (secondClick lost) "session init failed: browser crashed" ∧
            st.error = some "Element not found: #a" ∧
              ¬retriedClick.Describes step (secondClick lost) "Element not found: #a" := by
  have hleft : (freshRetriedClick.receiveAll (failingTwice (.sessionInit "browser crashed"))).session.steps.map
      (fun st => (st.final, st.state, st.error)) = [(true, .failed, some "Element not found: #a")] := by rfl
  obtain ⟨st, hrecord, hst⟩ := only_record hleft
  simp only [Prod.mk.injEq] at hst
  obtain ⟨hfinal, hfailed, herror⟩ := hst
  refine ⟨rfl, failingTwice_isOfRun _, by rfl, _, st, rfl, hrecord, hfinal, hfailed, by rfl, .fatal rfl, herror,
    fun h => ?_⟩
  have heq : "Element not found: #a" = "session init failed: browser crashed" := h.eq_of_fatal rfl
  exact absurd heq (by decide)

end Monitor

end BrowserPilot
