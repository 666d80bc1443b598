import BrowserPilot.Proofs.Browser.Typing
import BrowserPilot.Proofs.Monitor.Ends
import BrowserPilot.Proofs.Step.Fallbacks

/-!
# Typing that is retried

Each attempt at a step makes its primitive from the start. What a failed attempt
has typed stays on the page, and the next one types behind it.
-/

namespace BrowserPilot

/-! ## The attempts at a step -/

/-- What a record tells of the attempts at its step: they are numbered as they come, and all but the one that a step
passed with have failed. -/
structure StepStatus.Counts (ends : List Ended) (st : StepStatus) : Prop where
  numbers : ends.map (·.attempt.number) = List.range' 1 ends.length
  failed : st.final = false → ∀ x ∈ ends, ∃ f, x.outcome = some (.raised f)
  count : st.final = false → ends.length = st.retryCount + if st.state = .failed then 1 else 0
  passed : st.state = .success → ∃ before x r, ends = before ++ [x] ∧ before.length = st.retryCount ∧
    (∀ y ∈ before, ∃ f, y.outcome = some (.raised f)) ∧ x.outcome = some (.finished r)

namespace StepStatus

variable {ends : List Ended} {st st' : StepStatus} {x : Ended}

theorem counts_ofStep (step : Step) : (ofStep step).Counts [] := by
  refine ⟨rfl, fun _ => List.forall_mem_nil _, fun _ => rfl, ?_⟩
  intro hpassed
  cases hpassed

theorem Counts.of_final (hnumbers : ends.map (·.attempt.number) = List.range' 1 ends.length) (hf : st.final = true)
    (hs : st.state ≠ .success) : st.Counts ends := by
  have hopen {q : Prop} (ho : st.final = false) : q := by cases hf.symm.trans ho
  exact ⟨hnumbers, hopen, hopen, fun hpassed => absurd hpassed hs⟩

theorem Counts.begun (h : st.Counts ends) (hf : st.final = false) (hs : st.state ≠ .failed) (now : Instant)
    (line : String) : (st.begun now 1 line).Counts ends := by
  refine ⟨h.numbers, fun _ => h.failed hf, fun _ => ?_, ?_⟩
  · have hcount := h.count hf
    rwa [if_neg hs] at hcount
  · intro hpassed
    cases hpassed

theorem Counts.retried (h : st.Counts ends) (hf : st.final = false) (hs : st.state = .failed) (now : Instant)
    (line : String) : (st.begun now (st.retryCount + 2) line).Counts ends := by
  refine ⟨h.numbers, fun _ => h.failed hf, fun _ => ?_, ?_⟩
  · have hcount := h.count hf
    rw [if_pos hs] at hcount
    simp [StepStatus.begun, counted, started, logged, hcount]
  · intro hpassed
    cases hpassed

section
variable (h : st.Counts ends) (hf : st.final = false) (hs : st.state = .running) (hn : x.attempt.number = st.retryCount + 1)
include h hf hs hn

theorem Counts.numbers_snoc : (ends ++ [x]).map (·.attempt.number) = List.range' 1 (ends ++ [x]).length := by
  have hcount := h.count hf
  rw [if_neg (by simp [hs]), Nat.add_zero] at hcount
  simp [h.numbers, hn, List.range'_concat, hcount, Nat.add_comm]

theorem Counts.faulted {f : Fault} (hx : x.outcome = some (.raised f)) (e line : String) :
    (st.faulted .failed e line).Counts (ends ++ [x]) := by
  have hcount := h.count hf
  rw [if_neg (by simp [hs])] at hcount
  refine ⟨h.numbers_snoc hf hs hn, fun _ => ?_, fun _ => ?_, ?_⟩
  · exact List.forall_mem_append.mpr ⟨h.failed hf, List.forall_mem_singleton.mpr ⟨f, hx⟩⟩
  · simp [StepStatus.faulted, inState, logged, withError, hcount]
  · intro hpassed
    cases hpassed

theorem Counts.passed_with {r : Result} (hx : x.outcome = some (.finished r)) {k : ActionKind} (ho : st.store k r = .ok st')
    (fallback : Option Nat) (now : Instant) : ((st'.passed fallback).closed now).Counts (ends ++ [x]) := by
  have hcount := h.count hf
  rw [if_neg (by simp [hs])] at hcount
  have hopen {q : Prop} (ho : ((st'.passed fallback).closed now).final = false) : q := by cases ho
  refine ⟨h.numbers_snoc hf hs hn, hopen, hopen, fun _ => ⟨ends, x, r, rfl, ?_, h.failed hf, hx⟩⟩
  rw [hcount, store_ok ho]
  rfl

end

end StepStatus

theorem Step.raised_of_fault? {step : Step} {x : Ended} {e : StepFault} (h : step.fault? x = some e) :
    ∃ f, x.outcome = some (.raised f) := by
  unfold fault? at h
  split at h
  · cases h
  · exact ⟨_, ‹_›⟩
  · cases h

theorem Plan.counts_upheld (p : Plan) : p.Upholds fun _ ends st => st.Counts ends := by
  intro step ends st st' x now h hm
  cases hm with
  | begun hf hs line => simpa using h.begun hf (by simp [hs]) now line
  | retried hf hs line => simpa using h.retried hf hs now line
  | closed _ hs =>
    have hsettled : (st.closed now).Counts ends := .of_final h.numbers rfl (by simp [StepStatus.closed, hs])
    simpa using hsettled
  | wound _ reason =>
    have hsettled : (st.abandoned now reason).Counts ends := .of_final h.numbers rfl StepState.noConfusion
    simpa using hsettled
  | ended hf hs hn hends =>
    have hnumbers := h.numbers_snoc hf hs hn
    cases hends with
    | passed hx ho => exact h.passed_with hf hs hn hx ho _ now
    | failed hx line =>
      obtain ⟨f, hraised⟩ := Step.raised_of_fault? hx
      exact h.faulted hf hs hn hraised _ line
    | skipped _ _ | exhausted _ _ | undelayed _ _ _ _ _ | fatal _ | stopped _ _ =>
      exact .of_final hnumbers rfl StepState.noConfusion

theorem Phase.current?_of_ended? {ph : Phase} {x : Ended} (h : ph.ended? = some x) : ph.current? = some x.attempt := by
  unfold ended? at h
  split at h <;> cases h <;> rfl

namespace Monitor

section
variable {m : Monitor} {p : Plan}

theorem Performs.ended_makes (h : m.Performs p) (s : Signal) : ∀ x ∈ m.ended s, p.Makes x.attempt := by
  intro x hx
  cases s with
  | turn => exact h.current _ (Phase.current?_of_ended? (Option.mem_toList.mp hx))
  | _ => cases hx

/-- **A run acts on the ends of attempts at its steps**, as the steps make them. -/
theorem Reached.ends_make (signals : List (Moment × Signal)) : ∀ {m : Monitor}, m.Reached p → m.Performs p →
    (∀ x ∈ signals, x.2.isOfRun = true) → ∀ x ∈ m.ends signals, p.Makes x.attempt := by
  induction signals with
  | nil => exact fun _ _ _ => List.forall_mem_nil _
  | cons s signals ih =>
    intro m hm hperforms hs
    have hfirst := hs s (by simp)
    have hlater := ih (hm.receive s.1 hfirst) (hperforms.receive hm s.1 hfirst) fun y hy => hs y (by simp [hy])
    exact List.forall_mem_append.mpr ⟨hperforms.ended_makes s.2, hlater⟩

end

section
variable {now : Instant} {id taskName : String} {plan : Plan} {control : Control} {m : Monitor}
  (hm : create now id taskName plan control = .ok m) {signals : List (Moment × Signal)}
  (hs : ∀ x ∈ signals, x.2.isOfRun = true) {i : Nat} {step : Step} (hstep : plan.steps[i]? = some step)
include hm hs hstep

theorem endsAt_action : ∀ x ∈ endsAt i (m.ends signals), x.attempt.action = (step.attempt x.attempt.number).1 := by
  intro x hx
  obtain ⟨hx, hindex⟩ := List.mem_filter.mp hx
  have hperforms : m.Performs plan := receiveAll_performs hm [] (List.forall_mem_nil _)
  obtain ⟨step', hstep', hmakes⟩ := (create_reached hm).ends_make signals hperforms hs x hx
  rw [beq_iff_eq.mp hindex, hstep] at hstep'
  cases hstep'
  exact congrArg Prod.fst hmakes

/-- **The attempts at a step that has passed** are those that the step makes, one after the other. All but the last
have failed, and there is one for each retry. -/
theorem passed_attempts {st : StepStatus} (hst : (m.receiveAll signals).session.steps[i]? = some st)
    (hpassed : st.state = .success) :
    ∃ before x r, endsAt i (m.ends signals) = before ++ [x] ∧ before.length = st.retryCount ∧
      (∀ y ∈ before, ∃ f, y.outcome = some (.raised f)) ∧ x.outcome = some (.finished r) ∧
        (before ++ [x]).map (·.attempt.action) =
          (List.range' 1 (before ++ [x]).length).map (fun n : Nat => (step.attempt n).1) := by
  have hbegin : plan.Keeps (fun _ ends st => st.Counts ends) [] m.session.steps := by
    intro j s t _ ht
    rw [create_eq hm] at ht
    obtain ⟨s', _, rfl⟩ := List.mem_map.mp (List.mem_of_getElem? ht)
    exact StepStatus.counts_ofStep s'
  have hcounts : st.Counts (endsAt i (m.ends signals)) :=
    receiveAll_keeps plan.counts_upheld signals (create_reached hm) hs hbegin i step st hstep hst
  obtain ⟨before, x, r, hends, hlength, hfailed, hx⟩ := hcounts.passed hpassed
  have hnumbers := hcounts.numbers
  have hactions := endsAt_action hm hs hstep
  rw [hends] at hnumbers hactions
  refine ⟨before, x, r, hends, hlength, hfailed, hx, ?_⟩
  rw [List.map_congr_left hactions, ← hnumbers, List.map_map]
  rfl

end

end Monitor

/-! ## What the attempts leave on the page -/

def Action.typedText : Action → List Char
  | .type _ text => text.toList
  | _ => []

/-- How an attempt was carried out: on which browser, with which calls and answers, and what browser it left. -/
structure Carried where
  ended : Ended
  browser : Browser
  entries : List Browser.Entry
  left : Browser

namespace Carried

def text (w : Carried) : List Char := w.ended.attempt.action.typedText

def typed (w : Carried) : List Char := Browser.typed w.entries

/-- The calls are those of the primitive, and the outcome is how it ended with these answers. -/
inductive IsGenuine (w : Carried) : Prop where
  | finished {r : Result} (h : (Browser.perform w.ended.attempt.action w.browser).Goes w.entries w.left (.ok r))
      (ho : w.ended.outcome = some (.finished r))
  | raised {f : Fault} (h : (Browser.perform w.ended.attempt.action w.browser).Goes w.entries w.left (.error f))
      (ho : w.ended.outcome = some (.raised f))

/-- However its calls are answered, an attempt is carried out in this way. -/
theorem isGenuine_perform (a : Attempt) (b : Browser) (respond : Respond) (h : List Browser.Entry) :
    let f := (Browser.perform a.action b).perform respond h
    ∃ l o, f.history = h ++ l ∧ IsGenuine ⟨⟨a, some o⟩, b, l, f.browser⟩ := by
  intro f
  obtain ⟨l, hl, hgoes⟩ := (Program.leaves_goes (Browser.perform a.action b)).perform respond h
  cases hresult : f.result with
  | ok r => exact ⟨l, .finished r, hl, .finished (hresult ▸ hgoes) rfl⟩
  | error e => exact ⟨l, .raised e, hl, .raised (hresult ▸ hgoes) rfl⟩

variable {w : Carried}

theorem typedText_of_kind {a : Action} (h : a.kind = .type) :
    ∃ selector text, a = .type selector text ∧ a.typedText = text.toList := by
  cases a with
  | type selector text => exact ⟨selector, text, rfl, rfl⟩
  | _ => cases h

theorem IsGenuine.whole (h : w.IsGenuine) (hkind : w.ended.attempt.action.kind = .type) {r : Result}
    (ho : w.ended.outcome = some (.finished r)) : w.typed = w.text := by
  obtain ⟨selector, text, haction, htext⟩ := typedText_of_kind hkind
  cases h with
  | finished hgoes _ =>
    rw [haction] at hgoes
    have hdelivers := (Browser.perform_type_delivers selector text w.browser).goes hgoes
    rw [Carried.text, htext]
    exact hdelivers.whole _ rfl
  | raised _ hraised => cases hraised.symm.trans ho

theorem IsGenuine.leftover (h : w.IsGenuine) (hkind : w.ended.attempt.action.kind = .type) {f : Fault}
    (ho : w.ended.outcome = some (.raised f)) :
    Browser.Leftover w.text w.browser.countermeasures.humanInput w.entries := by
  obtain ⟨selector, text, haction, htext⟩ := typedText_of_kind hkind
  cases h with
  | finished _ hfinished => cases hfinished.symm.trans ho
  | raised hgoes _ =>
    rw [haction] at hgoes
    have hdelivers := (Browser.perform_type_delivers selector text w.browser).goes hgoes
    rw [Carried.text, htext]
    exact hdelivers.leftover _ rfl

end Carried

namespace Monitor

/-- **Typing that is retried.** Of a step that types and has passed, each failed
attempt has left a first part of its text, and behind these stands the text of
the last attempt. So what is typed is that text, once, if and only if no failed
attempt has brought a character to the page. -/
theorem retried_typing {now : Instant} {id taskName : String} {plan : Plan} {control : Control} {m : Monitor}
    (hm : create now id taskName plan control = .ok m) {signals : List (Moment × Signal)}
    (hs : ∀ x ∈ signals, x.2.isOfRun = true) {i : Nat} {step : Step} {st : StepStatus} {selector text : String}
    (hstep : plan.steps[i]? = some step) (htype : step.action = .type selector text)
    (hst : (m.receiveAll signals).session.steps[i]? = some st) (hpassed : st.state = .success) {works : List Carried}
    (hworks : works.map (·.ended) = endsAt i (m.ends signals)) (hgenuine : ∀ w ∈ works, w.IsGenuine) :
    ∃ failed last, works = failed ++ [last] ∧ failed.length = st.retryCount ∧
      (∀ w ∈ failed, Browser.Leftover w.text w.browser.countermeasures.humanInput w.entries) ∧
        works.flatMap Carried.typed = failed.flatMap Carried.typed ++ last.text ∧
          (works.flatMap Carried.typed = last.text ↔ ∀ w ∈ failed, w.typed = []) ∧
            works.map (·.ended.attempt.action) = (List.range' 1 works.length).map (fun n : Nat => (step.attempt n).1) ∧
              (step.fallbacks = [] → ∀ w ∈ works, w.text = text.toList) := by
  obtain ⟨before, x, r, hends, hlength, hfailed, hx, hmade⟩ := passed_attempts hm hs hstep hst hpassed
  rw [hends] at hworks
  -- the works are those of the attempts 1, 2, … at the step, each of which types
  have hactions : works.map (·.ended.attempt.action) =
      (List.range' 1 works.length).map (fun n : Nat => (step.attempt n).1) := by
    rw [← hworks, List.map_map, List.length_map] at hmade
    exact hmade
  have hattempt : ∀ w ∈ works, ∃ n : Nat, w.ended.attempt.action = (step.attempt n).1 := by
    intro w hw
    have hmem : w.ended.attempt.action ∈ works.map (·.ended.attempt.action) := List.mem_map_of_mem hw
    rw [hactions] at hmem
    obtain ⟨n, _, hn⟩ := List.mem_map.mp hmem
    exact ⟨n, hn.symm⟩
  have hkind : ∀ w ∈ works, w.ended.attempt.action.kind = .type := by
    intro w hw
    obtain ⟨n, hn⟩ := hattempt w hw
    rw [hn, step.attempt_kind, Step.kind, htype]
    rfl
  obtain ⟨failed, rest, rfl, hbefore, hrest⟩ := List.map_eq_append_iff.mp hworks
  obtain ⟨last, rfl, rfl⟩ := List.map_eq_singleton_iff.mp hrest
  have hwhole : last.typed = last.text := (hgenuine last (by simp)).whole (hkind last (by simp)) hx
  have htyped : (failed ++ [last]).flatMap Carried.typed = failed.flatMap Carried.typed ++ last.text := by
    simp [hwhole]
  refine ⟨failed, last, rfl, ?_, ?_, htyped, ?_, hactions, ?_⟩
  · rw [← hlength, ← hbefore, List.length_map]
  · intro w hw
    have hmem : w ∈ failed ++ [last] := List.mem_append_left _ hw
    obtain ⟨f, hf⟩ := hfailed w.ended (hbefore ▸ List.mem_map_of_mem hw)
    exact (hgenuine w hmem).leftover (hkind w hmem) hf
  · rw [htyped]
    simp
  · intro hnone w hw
    obtain ⟨n, hn⟩ := hattempt w hw
    have hself : step.attempt n = (step.action, none) := by
      apply Step.attempt_eq_self
      intro j _
      simp [hnone]
    rw [Carried.text, hn, hself, htype]
    rfl

private def retriedInput : Plan where
  steps := [⟨"step-1", 1, .type "#q" "ab", [], { retries := 1 }⟩]
  delay _ _ := .ok (.part (.ofNat 1))

private def typingHour : Moment := .ofSeconds (.ofNat 0)

private def freshRetriedInput : Monitor :=
  { plan := retriedInput, session := .ofSteps typingHour.wall "session" "task" retriedInput.steps }

private def closedTarget : Fault := .step (.elementNotFound "#q" (Browser.headline (.browser false "Target closed")))

private def passingSecond : List (Moment × Signal) :=
  [.start, .outcome (.raised closedTarget), .turn, .timeUp, .turn, .outcome (.finished .nothing), .turn].map (typingHour, ·)

private def humanBrowser : Browser :=
  { Browser.create { projectRoot := .ofString "/" } {} ⟨.ofNat 0⟩ (.ofSeed 1) with
    isLaunched := true, pages := [(Browser.defaultPage, ⟨1⟩)] }

private theorem passingSecond_passes : ∃ st, (freshRetriedInput.receiveAll passingSecond).session.steps[0]? = some st ∧
    st.state = .success := by
  have hleft : (freshRetriedInput.receiveAll passingSecond).session.steps.map (·.state) = [.success] := by rfl
  obtain ⟨st, hsteps, hst⟩ := List.map_eq_singleton_iff.mp hleft
  exact ⟨st, by rw [hsteps]; rfl, hst⟩

/-- The first attempt may leave any first part of the text but the whole, and the second goes on with its browser. -/
private theorem passingSecond_works (before : List Char) (c : Char) (after : List Char)
    (h : before ++ c :: after = ['a', 'b']) :
    ∃ first second : Carried, [first, second].map (·.ended) = endsAt 0 (freshRetriedInput.ends passingSecond) ∧
      (∀ w ∈ [first, second], w.IsGenuine) ∧ second.browser = first.left ∧ first.typed = before ∧
        second.typed = ['a', 'b'] := by
  have hopen : humanBrowser.pages.lookup Browser.defaultPage = some ⟨1⟩ := rfl
  obtain ⟨l, random, hbreak, hl⟩ :=
    Browser.perform_type_may_break rfl hopen rfl "#q" before c after false "Target closed"
  let left : Browser := { humanBrowser with random }
  have hleft : left.pages.lookup Browser.defaultPage = some ⟨1⟩ := rfl
  obtain ⟨l', random', hpass, hl'⟩ := Browser.perform_type_may_pass rfl hleft rfl "#q" "ab"
  rw [h] at hbreak
  let first : Carried := ⟨⟨⟨0, 1, .type "#q" "ab", none⟩, some (.raised closedTarget)⟩, humanBrowser, l, left⟩
  let second : Carried :=
    ⟨⟨⟨0, 2, .type "#q" "ab", none⟩, some (.finished .nothing)⟩, left, l', { left with random := random' }⟩
  refine ⟨first, second, by rfl, ?_, rfl, hl, hl'⟩
  intro w hw
  rcases List.mem_pair.mp hw with rfl | rfl
  · exact .raised hbreak rfl
  · exact .finished hpass rfl

theorem retried_typing_unbroken : create typingHour.wall "session" "task" retriedInput {} = .ok freshRetriedInput ∧
    (∀ x ∈ passingSecond, x.2.isOfRun = true) ∧ ∃ step st, ∃ works : List Carried, retriedInput.steps[0]? = some step ∧
      step.action = .type "#q" "ab" ∧ (freshRetriedInput.receiveAll passingSecond).session.steps[0]? = some st ∧
        st.state = .success ∧ works.map (·.ended) = endsAt 0 (freshRetriedInput.ends passingSecond) ∧
          (∀ w ∈ works, w.IsGenuine) ∧ works.length = 2 ∧ works.flatMap Carried.typed = ['a', 'b'] := by
  have hcreate : create typingHour.wall "session" "task" retriedInput {} = .ok freshRetriedInput := rfl
  have hrun : ∀ x ∈ passingSecond, x.2.isOfRun = true := by simp [passingSecond, Signal.isOfRun]
  obtain ⟨st, hst, hpassed⟩ := passingSecond_passes
  obtain ⟨first, second, hworks, hgenuine, _, hfirst, _⟩ := passingSecond_works [] 'a' ['b'] rfl
  obtain ⟨failed, last, hsplit, _, _, _, hiff, _, htexts⟩ :=
    retried_typing hcreate hrun (i := 0) rfl rfl hst hpassed hworks hgenuine
  obtain ⟨rfl, hlast⟩ := List.append_inj' (show [first] ++ [second] = failed ++ [last] from hsplit) rfl
  obtain rfl : second = last := by simpa using hlast
  refine ⟨hcreate, hrun, _, st, [first, second], rfl, rfl, hst, hpassed, hworks, hgenuine, rfl, ?_⟩
  have htyped : [first, second].flatMap Carried.typed = second.text := hiff.mpr (by simp [hfirst])
  rw [htyped, htexts rfl second (by simp)]
  rfl

/-- The second attempt types behind what the first has left. -/
theorem letter_typed_twice : create typingHour.wall "session" "task" retriedInput {} = .ok freshRetriedInput ∧
    (∀ x ∈ passingSecond, x.2.isOfRun = true) ∧ ∃ step st, ∃ first second : Carried,
      retriedInput.steps[0]? = some step ∧ step.action = .type "#q" "ab" ∧
        (freshRetriedInput.receiveAll passingSecond).session.steps[0]? = some st ∧ st.state = .success ∧
          [first, second].map (·.ended) = endsAt 0 (freshRetriedInput.ends passingSecond) ∧ first.IsGenuine ∧
            second.IsGenuine ∧ second.browser = first.left ∧ first.typed ++ second.typed = ['a', 'a', 'b'] ∧
              first.typed ++ second.typed ≠ "ab".toList := by
  obtain ⟨st, hst, hpassed⟩ := passingSecond_passes
  obtain ⟨first, second, hworks, hgenuine, hleft, hfirst, hsecond⟩ := passingSecond_works ['a'] 'b' [] rfl
  have htyped : first.typed ++ second.typed = ['a', 'a', 'b'] := by simp [hfirst, hsecond]
  refine ⟨rfl, by simp [passingSecond, Signal.isOfRun], _, st, first, second, rfl, rfl, hst, hpassed, hworks,
    hgenuine first (by simp), hgenuine second (by simp), hleft, htyped, ?_⟩
  rw [htyped]
  decide

end Monitor

end BrowserPilot
