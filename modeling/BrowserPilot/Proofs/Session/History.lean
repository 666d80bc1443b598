import BrowserPilot.Proofs.Clock
import BrowserPilot.Proofs.Session.Operation

/-!
# Histories of records and sessions

Whatever is asked of a record or a session, allowed or not, its fields stay in
step with each other, and what they say once a step has passed or a session has
ended stays so. A final record takes nothing but being settled once more.
-/

namespace BrowserPilot

namespace StepState

theorem running_of_hasPassed {s new : StepState} (h : s.canBecome new = true) (hp : new.hasPassed = true) :
    s = .running := by
  revert h hp
  cases s <;> cases new <;> decide

theorem not_canBecome_of_hasPassed {s : StepState} (hp : s.hasPassed = true) (new : StepState) :
    s.canBecome new = false := by
  revert hp
  cases s <;> cases new <;> decide

end StepState

theorem SessionState.not_isTerminal_of_canBecome {s new : SessionState} (h : s.canBecome new = true) :
    s.isTerminal = false := by
  revert h
  cases s <;> cases new <;> decide

namespace StepStatus

section
variable {st st' st'' : StepStatus} {now : Instant} {op : Operation}

/-! ## Fields that belong together -/

/-- A record is settled exactly if it has an end, in a state in which it may be
left, and it has a duration if it also has a start. What runs or has passed has a start. -/
structure IsCoherent (st : StepStatus) : Prop where
  ended : st.final = st.endedAt.isSome
  terminal : st.final = true → st.state.isTerminal = true
  duration : st.durationMs = st.endedAt.bind fun e => st.startedAt.map fun b => b.millisecondsTo e
  begun : st.state = .running ∨ st.state.hasPassed = true → st.startedAt.isSome = true

theorem isCoherent_ofStep (step : Step) : (ofStep step).IsCoherent :=
  ⟨rfl, nofun, rfl, fun h => by rcases h with h | h <;> cases h⟩

theorem IsCoherent.endedAt_eq (h : st.IsCoherent) (hf : st.final = false) : st.endedAt = none := by
  rw [h.ended] at hf
  exact Option.not_isSome_iff_eq_none.mp (Bool.eq_false_iff.mp hf)

theorem Changes.coherent (h : st.Changes now op st') (hst : st.IsCoherent) : st'.IsCoherent := by
  cases h with
  | runs hf hc =>
    -- an open record has no end, so that a start does not give it a duration
    refine ⟨hst.ended, fun hf' => absurd (hf.symm.trans hf') nofun, ?_, fun _ => rfl⟩
    show st.durationMs = st.endedAt.bind _
    rw [hst.duration, hst.endedAt_eq hf]
    rfl
  | moves hf hc hn =>
    -- only a running step passes
    refine ⟨hst.ended, fun hf' => absurd (hf.symm.trans hf') nofun, hst.duration, fun h => hst.begun (.inl ?_)⟩
    exact StepState.running_of_hasPassed hc (h.resolve_left hn)
  | logs hf => exact ⟨hst.ended, hst.terminal, hst.duration, hst.begun⟩
  | closes ht =>
    refine ⟨rfl, fun _ => ht, ?_, hst.begun⟩
    have hduration := hst.duration
    cases hs : st.startedAt with
    | none =>
      rw [hs] at hduration
      simpa [closed, hs] using hduration
    | some b => simp [closed, hs]

theorem after_coherent (hst : st.IsCoherent) (x : Instant × Operation) : (st.after x).IsCoherent := by
  rcases st.after_cases x with ⟨_, h⟩ | ⟨_, h⟩
  · exact h.coherent hst
  · rw [h]
    exact hst

theorem afterAll_coherent (history : List (Instant × Operation)) : ∀ {st : StepStatus}, st.IsCoherent →
    (st.afterAll history).IsCoherent := by
  induction history with
  | nil => exact fun h => h
  | cons x history ih => exact fun h => ih (after_coherent h x)

/-- What is known of the times of a record at an instant: no step has begun
later than then, or ended before it began. -/
structure IsTimely (now : Instant) (st : StepStatus) : Prop where
  begun : ∀ b ∈ st.startedAt, b ≤ now
  ended : ∀ b ∈ st.startedAt, ∀ e ∈ st.endedAt, b ≤ e

theorem Changes.timely {t : Instant} (h : st.Changes t op st') (hst : st.IsCoherent) (htime : st.IsTimely now)
    (ht : now ≤ t) : st'.IsTimely t := by
  have hbegun : ∀ b ∈ st.startedAt, b ≤ t := fun b hb => le_trans (htime.begun b hb) ht
  cases h with
  | runs hf hc =>
    refine ⟨fun b hb => ?_, fun b hb e he => ?_⟩
    · obtain rfl : st.startedAt.getD t = b := Option.some_inj.mp hb
      cases hs : st.startedAt with
      | none => exact le_refl t
      | some b => exact hbegun b hs
    · have hopen : e ∈ st.endedAt := he
      rw [hst.endedAt_eq hf] at hopen
      cases hopen
  | moves hf hc hn => exact ⟨hbegun, htime.ended⟩
  | logs hf => exact ⟨hbegun, htime.ended⟩
  | closes hterm => exact ⟨hbegun, fun b hb e he => Option.some_inj.mp he ▸ hbegun b hb⟩

theorem afterAll_timely (history : List (Instant × Operation)) : ∀ {st : StepStatus} {now : Instant}, st.IsCoherent →
    st.IsTimely now → (now :: history.map (·.1)).Pairwise (· ≤ ·) → ∃ later, (st.afterAll history).IsTimely later := by
  induction history with
  | nil => exact fun _ htime _ => ⟨_, htime⟩
  | cons x history ih =>
    intro st now hst htime hclock
    obtain ⟨hnow, hclock⟩ := List.pairwise_cons.mp hclock
    have hx : now ≤ x.1 := hnow _ (List.mem_cons_self ..)
    refine ih (after_coherent hst x) ?_ hclock
    rcases st.after_cases x with ⟨_, h⟩ | ⟨_, h⟩
    · exact h.timely hst htime hx
    · rw [h]
      exact ⟨fun b hb => le_trans (htime.begun b hb) hx, htime.ended⟩

theorem IsTimely.duration (htime : st.IsTimely now) (hst : st.IsCoherent) : ∀ ms ∈ st.durationMs, 0 ≤ ms := by
  intro ms hms
  rw [hst.duration] at hms
  obtain ⟨e, he, hms⟩ := Option.bind_eq_some_iff.mp hms
  obtain ⟨b, hb, rfl⟩ := Option.map_eq_some_iff.mp hms
  exact Instant.millisecondsTo_nonneg (htime.ended b hb e he)

theorem IsCoherent.durationMs_isSome (hst : st.IsCoherent) :
    st.durationMs.isSome = true ↔ st.final = true ∧ st.startedAt.isSome = true := by
  rw [hst.duration, hst.ended]
  cases st.endedAt <;> cases st.startedAt <;> simp

/-! ## What lasts -/

/-- A start that has been made and a state in which a step has passed stay. -/
structure Lasts (st st' : StepStatus) : Prop where
  startedAt : ∀ b ∈ st.startedAt, st'.startedAt = some b
  passed : st.state.hasPassed = true → st'.state = st.state

theorem Lasts.refl (st : StepStatus) : st.Lasts st := ⟨fun _ => id, fun _ => rfl⟩

theorem Lasts.trans (h : st.Lasts st') (h' : st'.Lasts st'') : st.Lasts st'' where
  startedAt b hb := h'.startedAt b (h.startedAt b hb)
  passed hp := by
    have hkept := h.passed hp
    exact (h'.passed (hkept ▸ hp)).trans hkept

theorem Changes.lasts (h : st.Changes now op st') : st.Lasts st' := by
  cases h with
  | runs hf hc =>
    refine ⟨fun b hb => ?_, fun hp => ?_⟩
    · simp [started, Option.mem_def.mp hb]
    · rw [StepState.not_canBecome_of_hasPassed hp] at hc
      cases hc
  | moves hf hc hn =>
    refine ⟨fun _ => id, fun hp => ?_⟩
    rw [StepState.not_canBecome_of_hasPassed hp] at hc
    cases hc
  | logs hf => exact ⟨fun _ => id, fun _ => rfl⟩
  | closes ht => exact ⟨fun _ => id, fun _ => rfl⟩

theorem after_lasts (st : StepStatus) (x : Instant × Operation) : st.Lasts (st.after x) := by
  rcases st.after_cases x with ⟨_, h⟩ | ⟨_, h⟩
  · exact h.lasts
  · rw [h]
    exact .refl st

theorem afterAll_lasts (history : List (Instant × Operation)) : ∀ st : StepStatus, st.Lasts (st.afterAll history) := by
  induction history with
  | nil => exact .refl
  | cons x history ih => exact fun st => (after_lasts st x).trans (ih (st.after x))

/-- A step begins when it is first let run. -/
theorem startedAt_after (st : StepStatus) (x : Instant × Operation) : (st.after x).startedAt =
    st.startedAt.or (if st.accepts x && x.2.isRun then some x.1 else none) := by
  rcases st.after_cases x with ⟨ha, h⟩ | ⟨ha, h⟩
  · obtain ⟨t, op⟩ := x
    rw [ha]
    generalize st.after (t, op) = st' at h
    cases h with
    | runs hf hc => cases hs : st.startedAt <;> simp [started, hs, Operation.isRun]
    | @moves new hf hc hn => cases new <;> simp_all [inState, Operation.isRun]
    | logs hf => simp [logged, Operation.isRun]
    | closes ht => simp [closed, Operation.isRun]
  · rw [h, ha]
    simp

/-! ## Settled records -/

theorem closed_closed (st : StepStatus) (t u : Instant) : (st.closed t).closed u = st.closed u := by
  cases hs : st.startedAt <;> simp [closed, hs]

theorem IsCoherent.closed_self (h : st.IsCoherent) {e : Instant} (he : st.endedAt = some e) : st.closed e = st := by
  have hf : st.final = true := by rw [h.ended, he]; rfl
  have hduration := h.duration
  rw [he] at hduration
  obtain ⟨⟩ := st
  simp only [Option.bind_some] at he hf hduration
  subst he hf hduration
  rename_i startedAt _ _ _ _ _ _ _
  cases startedAt <;> rfl

theorem final_refuses (hf : st.final = true) (t : Instant) (op : Operation) (hn : op ≠ .finalize) :
    ∃ f, (op.writes t).perform st = (.error f, st) := by
  obtain ⟨st', hc, _⟩ | ⟨f, _, hw⟩ := op.writes_makes t st
  · -- whatever else makes a change needs an open record
    cases changes_of_change hc with
    | runs hopen | moves hopen | logs hopen => cases hf.symm.trans hopen
    | closes => exact absurd rfl hn
  · exact ⟨f, hw⟩

theorem finalize_perform (ht : st.state.isTerminal = true) (t : Instant) :
    (Operation.finalize.writes t).perform st = (.ok (), st.closed t) := by
  obtain ⟨st', hc, hw⟩ | ⟨f, hc, _⟩ := Operation.finalize.writes_makes t st
  · cases (finalize_ok t ht).symm.trans hc
    exact hw
  · cases (finalize_ok t ht).symm.trans hc

/-- The instant at which a record is settled last, behind one at which it has been. -/
def lastEnd (e : Instant) (history : List (Instant × Operation)) : Instant :=
  history.foldl (fun e x => if x.2 = .finalize then x.1 else e) e

theorem lastEnd_snoc (e : Instant) (history : List (Instant × Operation)) (x : Instant × Operation) :
    lastEnd e (history ++ [x]) = if x.2 = .finalize then x.1 else lastEnd e history := List.foldl_append

theorem lastEnd_eq {e : Instant} (history : List (Instant × Operation)) (h : ∀ x ∈ history, x.2 = .finalize → x.1 = e) :
    lastEnd e history = e := by
  induction history using List.reverseRecOn with
  | nil => rfl
  | append_singleton history x ih =>
    obtain ⟨hbefore, hx⟩ := List.forall_mem_append.mp h
    rw [lastEnd_snoc, ih hbefore]
    split
    · rename_i hop
      exact hx x (List.mem_singleton_self x) hop
    · rfl

/-- A settled record is settled anew whenever it is asked to be, and takes nothing else. -/
theorem afterAll_closed (ht : st.state.isTerminal = true) (history : List (Instant × Operation)) : ∀ e,
    (st.closed e).afterAll history = st.closed (lastEnd e history) := by
  induction history with
  | nil => exact fun _ => rfl
  | cons x history ih =>
    obtain ⟨t, op⟩ := x
    intro e
    have hstep : (st.closed e).after (t, op) = st.closed (if op = .finalize then t else e) := by
      unfold after
      split
      · rename_i hop
        subst hop
        rw [finalize_perform (show (st.closed e).state.isTerminal = true from ht) t, closed_closed]
      · rename_i hop
        obtain ⟨f, hw⟩ := final_refuses (show (st.closed e).final = true from rfl) t op hop
        rw [hw]
    show ((st.closed e).after (t, op)).afterAll history = _
    rw [hstep, ih]
    rfl

end

/-- **What becomes of a final record.** It refuses everything but `finalize`,
which gives it a new end and the duration up to it. So it stays as it is
throughout exactly if it is settled again at no other instant than that of its end. -/
theorem final_kept_iff {step : Step} {earlier : List (Instant × Operation)}
    (hf : ((ofStep step).afterAll earlier).final = true) :
    let st := (ofStep step).afterAll earlier
    (∀ t (op : Operation), op ≠ .finalize → ∃ f, (op.writes t).perform st = (.error f, st)) ∧
      (∀ t, (Operation.finalize.writes t).perform st = (.ok (), st.closed t)) ∧
        ∃ e, st.endedAt = some e ∧ ∀ later, st.afterAll later = st.closed (lastEnd e later) ∧
          ((∀ done, done <+: later → st.afterAll done = st) ↔ ∀ x ∈ later, x.2 = .finalize → x.1 = e) := by
  intro st
  have hst : st.IsCoherent := afterAll_coherent earlier (isCoherent_ofStep step)
  have ht : st.state.isTerminal = true := hst.terminal hf
  obtain ⟨e, he⟩ := Option.isSome_iff_exists.mp (hst.ended ▸ hf)
  have hlater : ∀ later, st.afterAll later = st.closed (lastEnd e later) := by
    intro later
    have hclosed := afterAll_closed ht later e
    rwa [hst.closed_self he] at hclosed
  refine ⟨fun t op hn => final_refuses hf t op hn, finalize_perform ht, e, he, fun later => ⟨hlater later, ?_, ?_⟩⟩
  · -- behind every further `finalize` the record has the instant of that one as its end
    intro hkept x hx hop
    obtain ⟨before, behind, rfl⟩ := List.append_of_mem hx
    have hdone := hkept (before ++ [x]) ⟨behind, by simp⟩
    rw [hlater, lastEnd_snoc, if_pos hop] at hdone
    have hend := congrArg endedAt hdone
    rw [he] at hend
    exact Option.some_inj.mp hend
  · intro h done hdone
    rw [hlater, lastEnd_eq done fun x hx => h x (hdone.subset hx), hst.closed_self he]

private def lateBy (seconds : Nat) : Instant := ⟨43200000000 + 1000000 * seconds⟩

private def buyStep : Step := ⟨"step-1", 1, .click "#buy", [], {}⟩

private def bought : List (Instant × Operation) :=
  [(lateBy 0, .transition .running), (lateBy 2, .transition .success), (lateBy 2, .finalize)]

private def belated : List (Instant × Operation) :=
  [(lateBy 2, .finalize), (lateBy 3, .log "late"), (lateBy 4, .transition .running)]

theorem final_kept_iff_belated : ((ofStep buyStep).afterAll bought).final = true ∧
    (ofStep buyStep).afterAll (bought ++ belated) = (ofStep buyStep).afterAll bought := by
  have hf : ((ofStep buyStep).afterAll bought).final = true := by decide
  obtain ⟨_, _, e, he, hlater⟩ := final_kept_iff hf
  have hend : e = lateBy 2 := Option.some_inj.mp (he.symm.trans (by decide))
  refine ⟨hf, (afterAll_append _ _ _).trans (((hlater belated).2.mpr ?_) belated (List.prefix_refl _))⟩
  subst hend
  decide

/-- A final record that is settled once more, three seconds later. -/
theorem final_record_changed : lateBy 2 ≤ lateBy 5 ∧ ((ofStep buyStep).afterAll bought).final = true ∧
    ((ofStep buyStep).afterAll bought).endedAt = some (lateBy 2) ∧
      ((ofStep buyStep).afterAll (bought ++ [(lateBy 5, .finalize)])).endedAt = some (lateBy 5) ∧
        ((ofStep buyStep).afterAll bought).durationMs = some 2000 ∧
          ((ofStep buyStep).afterAll (bought ++ [(lateBy 5, .finalize)])).durationMs = some 5000 := by
  decide +kernel

end StepStatus

namespace Session

section
variable {s s' : Session} {now : Instant} {op : Operation} {st : StepStatus} {i : Nat}

/-! ## The records of a session -/

theorem after_onStep (s : Session) (t : Instant) (i : Nat) (op : StepStatus.Operation) :
    s.after (t, .onStep i op) = match s.steps[i]? with
      | none => s
      | some st => { s with steps := s.steps.set i (st.after (t, op)) } := by
  unfold after
  rw [Operation.writes, perform_writesAt]
  cases s.steps[i]? <;> rfl

theorem accepts_onStep (hi : s.steps[i]? = some st) (t : Instant) (op : StepStatus.Operation) :
    s.accepts (t, .onStep i op) = st.accepts (t, op) := by
  unfold accepts
  rw [Operation.writes, perform_writesAt, hi]
  rfl

theorem steps_after (s : Session) (x : Instant × Operation) :
    (s.after x).steps = s.steps ∨ ∃ j op, x.2 = .onStep j op := by
  rcases s.after_cases x with ⟨_, h⟩ | ⟨_, h⟩
  · obtain ⟨t, op⟩ := x
    generalize s.after _ = s' at h
    cases h with
    | nowhere | onStep => exact .inr ⟨_, _, rfl⟩
    | setState => exact .inl rfl
    | record =>
      unfold recordOutcome
      split <;> exact .inl rfl
  · exact .inl (congrArg steps h)

theorem after_steps (s : Session) (x : Instant × Operation) (i : Nat) : (s.after x).steps[i]? =
    (s.steps[i]?).map fun st => match Operation.at? i x with
      | none => st
      | some y => st.after y := by
  obtain ⟨t, op⟩ := x
  cases op with
  | onStep j op =>
    rw [after_onStep]
    by_cases hij : i = j
    · subst hij
      cases hi : s.steps[i]? with
      | none => simpa using hi
      | some st =>
        obtain ⟨hlt, -⟩ := List.getElem?_eq_some_iff.mp hi
        simp [Operation.at?, hlt]
    · have hji : j ≠ i := fun h => hij h.symm
      cases s.steps[j]? <;> simp [Operation.at?, hij, hji]
  | setState new | record st =>
    rcases s.steps_after (t, _) with h | ⟨j, op, h⟩
    · rw [h]
      simp [Operation.at?]
    · cases h

theorem afterAll_steps (i : Nat) (history : List (Instant × Operation)) : ∀ s : Session,
    (s.afterAll history).steps[i]? = (s.steps[i]?).map (·.afterAll (history.filterMap (Operation.at? i))) := by
  induction history with
  | nil => exact fun s => Option.map_id'.symm
  | cons x history ih =>
    intro s
    show ((s.after x).afterAll history).steps[i]? = _
    rw [ih, after_steps, Option.map_map, List.filterMap_cons]
    cases Operation.at? i x <;> rfl

theorem startedAt_step (hi : s.steps[i]? = some st) (x : Instant × Operation) :
    ∃ st', (s.after x).steps[i]? = some st' ∧
      st'.startedAt = st.startedAt.or (if s.accepts x && x.2.runs i then some x.1 else none) := by
  rw [after_steps, hi]
  refine ⟨_, rfl, ?_⟩
  obtain ⟨t, op⟩ := x
  cases op with
  | onStep j op =>
    by_cases hij : i = j
    · subst hij
      simp [Operation.at?, Operation.runs, accepts_onStep hi, StepStatus.startedAt_after]
    · simp [Operation.at?, Operation.runs, hij]
  | setState new | record st => simp [Operation.at?, Operation.runs]

/-- A step begins with the first operation that is accepted and lets it run. -/
theorem startedAt_afterAll (history : List (Instant × Operation)) : ∀ {s : Session} {st : StepStatus}, s.steps[i]? = some st →
    ∀ st', (s.afterAll history).steps[i]? = some st' →
      st'.startedAt = st.startedAt.or (((s.accepted history).find? (·.2.runs i)).map (·.1)) := by
  induction history with
  | nil =>
    intro s st hi st' hi'
    cases hi.symm.trans hi'
    simp [accepted]
  | cons x history ih =>
    intro s st hi st' hi'
    obtain ⟨st₁, hi₁, hs₁⟩ := startedAt_step hi x
    rw [ih hi₁ st' hi', hs₁, accepted, Option.or_assoc]
    cases s.accepts x <;> cases hx : x.2.runs i <;> simp [hx]

/-! ## The state of a session -/

theorem after_state (s : Session) (x : Instant × Operation) :
    ((s.after x).state = s.state ∧ (s.after x).endedAt = s.endedAt) ∨
      ∃ new, s.state.canBecome new = true ∧ (s.after x).state = new ∧
        (s.after x).endedAt = if new.isTerminal then some x.1 else s.endedAt := by
  rcases s.after_cases x with ⟨_, h⟩ | ⟨_, h⟩
  · obtain ⟨t, op⟩ := x
    generalize s.after _ = s' at h
    cases h with
    | nowhere | onStep => exact .inl ⟨rfl, rfl⟩
    | setState hc => exact .inr ⟨_, hc, rfl, rfl⟩
    | record =>
      unfold recordOutcome
      split <;> exact .inl ⟨rfl, rfl⟩
  · rw [h]
    exact .inl ⟨rfl, rfl⟩

theorem after_ended (h : s.endedAt.isSome = s.isTerminal) (x : Instant × Operation) :
    (s.after x).endedAt.isSome = (s.after x).isTerminal := by
  rcases s.after_state x with ⟨hs, he⟩ | ⟨new, hc, hs, he⟩
  · rw [isTerminal, hs, he]
    exact h
  · rw [isTerminal, hs, he]
    cases ht : new.isTerminal with
    | true => rfl
    | false => rw [if_neg Bool.false_ne_true, h, isTerminal, SessionState.not_isTerminal_of_canBecome hc]

theorem afterAll_ended (history : List (Instant × Operation)) : ∀ {s : Session}, s.endedAt.isSome = s.isTerminal →
    (s.afterAll history).endedAt.isSome = (s.afterAll history).isTerminal := by
  induction history with
  | nil => exact fun h => h
  | cons x history ih => exact fun h => ih (after_ended h x)

/-- A session that has come to its end stays in its state, with the end it has got. -/
theorem afterAll_terminal (history : List (Instant × Operation)) : ∀ {s : Session}, s.isTerminal = true →
    (s.afterAll history).state = s.state ∧ (s.afterAll history).endedAt = s.endedAt := by
  induction history with
  | nil => exact fun _ => ⟨rfl, rfl⟩
  | cons x history ih =>
    intro s ht
    rcases s.after_state x with ⟨hs, he⟩ | ⟨new, hc, _⟩
    · have hnext := ih (s := s.after x) (by rwa [isTerminal, hs])
      exact ⟨hnext.1.trans hs, hnext.2.trans he⟩
    · cases ht.symm.trans (SessionState.not_isTerminal_of_canBecome hc)

/-- The operations on one record come in the order of all of them. -/
theorem pairwise_at? {history : List (Instant × Operation)} (hclock : (now :: history.map (·.1)).Pairwise (· ≤ ·)) (i : Nat) :
    (now :: (history.filterMap (Operation.at? i)).map (·.1)).Pairwise (· ≤ ·) := by
  refine hclock.sublist (.cons_cons now ?_)
  induction history with
  | nil => exact .slnil
  | cons x history ih =>
    have hrest := ih (hclock.sublist (.cons_cons now (List.sublist_cons_self ..)))
    obtain ⟨t, op⟩ := x
    cases op with
    | onStep j op =>
      by_cases hij : i = j
      · simpa [Operation.at?, hij] using hij ▸ hrest
      · simpa [Operation.at?, hij] using hrest.cons t
    | setState new | record st =>
      rw [List.filterMap_cons]
      exact hrest.cons t

end

/-- **A session takes what it is asked in good order.** Every operation is made as
a whole or refused with nothing changed. However many there are, the fields of
each record belong together, and its step began when it was first let run. The
session has an end exactly if it is over. What has begun, passed or ended stays so. -/
theorem history_coherent {now : Instant} {id taskName : String} {steps : List Step} {history : List (Instant × Operation)}
    (hclock : (now :: history.map (·.1)).Pairwise (· ≤ ·)) :
    let fresh := ofSteps now id taskName steps
    let s := fresh.afterAll history
    (∀ t (op : Operation), (∃ s', op.change t s = .ok s' ∧ (op.writes t).perform s = (.ok (), s')) ∨
        ∃ e, op.change t s = .error e ∧ (op.writes t).perform s = (.error e, s)) ∧
      s.steps.length = steps.length ∧
        (∀ (i : Nat) (st : StepStatus), s.steps[i]? = some st → st.IsCoherent ∧
          (st.durationMs.isSome = true ↔ st.final = true ∧ st.startedAt.isSome = true) ∧ (∀ ms ∈ st.durationMs, 0 ≤ ms) ∧
            st.startedAt = ((fresh.accepted history).find? (·.2.runs i)).map (·.1)) ∧
          s.endedAt.isSome = s.isTerminal ∧ ∀ later,
            (∀ (i : Nat) (st : StepStatus), s.steps[i]? = some st →
              ∃ st', (s.afterAll later).steps[i]? = some st' ∧ st.Lasts st') ∧
              (s.isTerminal = true → (s.afterAll later).state = s.state ∧ (s.afterAll later).endedAt = s.endedAt) := by
  intro fresh s
  have hfresh : ∀ i, fresh.steps[i]? = (steps[i]?).map StepStatus.ofStep := fun _ => List.getElem?_map
  have hrecord : ∀ i, s.steps[i]? = (steps[i]?).map fun step =>
      (StepStatus.ofStep step).afterAll (history.filterMap (Operation.at? i)) := by
    intro i
    rw [afterAll_steps, hfresh, Option.map_map]
    rfl
  refine ⟨fun t op => op.writes_makes t s, ?_, fun i st hi => ?_, afterAll_ended history rfl,
    fun later => ⟨fun i st hi => ?_, afterAll_terminal later⟩⟩
  · have hsame : ∀ i, s.steps.length ≤ i ↔ steps.length ≤ i := by
      intro i
      rw [← List.getElem?_eq_none_iff, ← List.getElem?_eq_none_iff, hrecord, Option.map_eq_none_iff]
    exact le_antisymm ((hsame _).mpr le_rfl) ((hsame _).mp le_rfl)
  · have hi' := hi
    rw [hrecord] at hi'
    obtain ⟨step, hstep, rfl⟩ := Option.map_eq_some_iff.mp hi'
    have hst := StepStatus.afterAll_coherent (history.filterMap (Operation.at? i)) (StepStatus.isCoherent_ofStep step)
    obtain ⟨_, htime⟩ := StepStatus.afterAll_timely (history.filterMap (Operation.at? i))
      (StepStatus.isCoherent_ofStep step) ⟨nofun, nofun⟩ (pairwise_at? hclock i)
    have hbegun := startedAt_afterAll history ((hfresh i).trans (congrArg _ hstep)) _ hi
    exact ⟨hst, hst.durationMs_isSome, htime.duration hst, hbegun⟩
  · rw [afterAll_steps, hi]
    exact ⟨_, rfl, StepStatus.afterAll_lasts _ st⟩

private def morning (seconds : Nat) : Instant := ⟨28800000000 + 1000000 * seconds⟩

private def purchase : List (Instant × Operation) :=
  [(morning 1, .onStep 0 (.transition .running)), (morning 2, .onStep 0 (.transition .failed)),
    (morning 3, .onStep 0 (.transition .running)), (morning 3, .onStep 1 (.transition .success)),
    (morning 4, .onStep 0 (.transition .success)), (morning 4, .onStep 0 .finalize),
    (morning 5, .onStep 0 (.log "late")), (morning 5, .setState .completed), (morning 6, .setState .failed)]

private def purchaseSteps : List Step := [⟨"step-1", 1, .click "#login", [], {}⟩, ⟨"step-2", 2, .click "#buy", [], {}⟩]

theorem history_coherent_purchase : (morning 0 :: purchase.map (·.1)).Pairwise (· ≤ ·) ∧
    let s := (ofSteps (morning 0) "id" "shop" purchaseSteps).afterAll purchase
    (∃ e, (Operation.setState .failed).change (morning 6) s = .error e ∧
        ((Operation.setState .failed).writes (morning 6)).perform s = (.error e, s)) ∧
      (∃ st, s.steps[0]? = some st ∧ st.startedAt = some (morning 1) ∧ st.durationMs.isSome = true) ∧
        s.endedAt.isSome = true ∧ ∀ later, (s.afterAll later).state = .completed := by
  have hclock : (morning 0 :: purchase.map (·.1)).Pairwise (· ≤ ·) := by decide
  obtain ⟨hmakes, _, hrecords, hend, hlater⟩ := @history_coherent (morning 0) "id" "shop" purchaseSteps purchase hclock
  refine ⟨hclock, ?_, ?_, hend.trans (by decide), fun later => ((hlater later).2 (by decide)).1⟩
  · refine (hmakes (morning 6) (.setState .failed)).resolve_left ?_
    rintro ⟨s', hs', -⟩
    cases hs'
  · refine ⟨_, rfl, ?_, ?_⟩
    · exact (hrecords 0 _ rfl).2.2.2.trans (by decide)
    · exact (hrecords 0 _ rfl).2.1.mpr (by decide)

end Session

end BrowserPilot
