import BrowserPilot.Proofs.Clock
import BrowserPilot.Proofs.Monitor.Tally
import Mathlib.Data.Set.Basic
import Mathlib.Order.Lattice

/-!
# The times of a run

A record gets the moment of the signal under which it begins, and the one under
which it becomes final. With a clock that does not run backwards the times of a
run are in order. A session gets its end with its last state, which a stop gives
it ahead of its records.
-/

namespace BrowserPilot

/-! ## What a run stamps -/

/-- Something is closed at most once, and gets its end then, at an instant in `T`. -/
inductive Closes (T : Set Instant) : Bool × Option Instant → Bool × Option Instant → Prop where
  | kept (x : Bool × Option Instant) : Closes T x x
  | closed {end? : Option Instant} {e : Instant} (he : e ∈ T) : Closes T (false, end?) (true, some e)

/-- The changes to a record that stamp it at instants in `T`. A final one keeps its times. -/
structure StepStatus.Passes (T : Set Instant) (st st' : StepStatus) : Prop where
  startedAt : st'.startedAt = st.startedAt ∨ st.final = false ∧ ∃ b ∈ T, st'.startedAt = some b
  endedAt : Closes T (st.final, st.endedAt) (st'.final, st'.endedAt)

/-- The changes to a session that stamp it and its records at instants in `T`. -/
structure Session.Passes (T : Set Instant) (s s' : Session) : Prop where
  taskName : s'.taskName = s.taskName
  startedAt : s'.startedAt = s.startedAt
  records : List.Forall₂ (StepStatus.Passes T) s.steps s'.steps
  endedAt : Closes T (s.isTerminal, s.endedAt) (s'.isTerminal, s'.endedAt)

section
variable {T T' : Set Instant}

theorem Closes.trans {x y z : Bool × Option Instant} (h : Closes T x y) (h' : Closes T y z) : Closes T x z := by
  cases h with
  | kept => exact h'
  | closed he =>
    cases h' with
    | kept => exact .closed he

theorem Closes.mono {x y : Bool × Option Instant} (h : Closes T x y) (hT : T ⊆ T') : Closes T' x y := by
  cases h with
  | kept => exact .kept x
  | closed he => exact .closed (hT he)

theorem Closes.elim {b b' : Bool} {e? e?' : Option Instant} (h : Closes T (b, e?) (b', e?')) :
    (b' = b ∧ e?' = e?) ∨ b = false ∧ b' = true ∧ ∃ e ∈ T, e?' = some e := by
  generalize hx : (b, e?) = x at h
  generalize hy : (b', e?') = y at h
  cases h with
  | kept => exact .inl (Prod.mk.inj (hy.trans hx.symm))
  | closed he =>
    obtain ⟨rfl, rfl⟩ := Prod.mk.inj hx
    obtain ⟨rfl, rfl⟩ := Prod.mk.inj hy
    exact .inr ⟨rfl, rfl, _, he, rfl⟩

theorem Closes.of_true {x y : Bool × Option Instant} (h : Closes T x y) (hx : x.1 = true) : y = x := by
  cases h with
  | kept => rfl
  | closed he => cases hx

namespace StepStatus

variable {st st' t : StepStatus}

theorem Passes.refl (st : StepStatus) : st.Passes T st := ⟨.inl rfl, .kept _⟩

theorem Passes.trans (h : st.Passes T st') (h' : st'.Passes T t) : st.Passes T t := by
  refine ⟨?_, h.endedAt.trans h'.endedAt⟩
  rcases h'.startedAt with heq | ⟨hf', hb⟩
  · rw [heq]
    exact h.startedAt
  · -- what is open now has been open before
    refine .inr ⟨?_, hb⟩
    by_contra hf
    have hkept : st'.final = st.final := congrArg Prod.fst (h.endedAt.of_true (by simpa using hf))
    exact hf (hkept ▸ hf')

theorem Passes.mono (h : st.Passes T st') (hT : T ⊆ T') : st.Passes T' st' :=
  ⟨h.startedAt.imp_right fun ⟨hf, b, hb, heq⟩ => ⟨hf, b, hT hb, heq⟩, h.endedAt.mono hT⟩

theorem Passes.of_final (h : st.Passes T st') (hf : st.final = true) :
    st'.startedAt = st.startedAt ∧ st'.endedAt = st.endedAt ∧ st'.final = true := by
  have hkept := h.endedAt.of_true hf
  refine ⟨?_, congrArg Prod.snd hkept, (congrArg Prod.fst hkept).trans hf⟩
  rcases h.startedAt with heq | ⟨hopen, _⟩
  · exact heq
  · exact absurd (hf.symm.trans hopen) nofun

theorem Passes.mem_startedAt (h : st.Passes T st') {b : Instant} (hb : b ∈ st'.startedAt) :
    b ∈ st.startedAt ∨ st.final = false ∧ b ∈ T := by
  rcases h.startedAt with heq | ⟨hf, c, hc, heq⟩
  · exact .inl (heq ▸ hb)
  · rw [heq] at hb
    exact .inr ⟨hf, Option.mem_some.mp hb ▸ hc⟩

theorem Passes.mem_endedAt (h : st.Passes T st') {e : Instant} (he : e ∈ st'.endedAt) :
    e ∈ st.endedAt ∨ st.final = false ∧ e ∈ T := by
  rcases h.endedAt.elim with ⟨_, heq⟩ | ⟨hf, _, c, hc, heq⟩
  · exact .inl (heq ▸ he)
  · rw [heq] at he
    exact .inr ⟨hf, Option.mem_some.mp he ▸ hc⟩

theorem passes_begun (now : Instant) (number : Nat) (line : String) (hf : st.final = false) :
    st.Passes {now} (st.begun now number line) := by
  have hcount : (st.counted number).startedAt = st.startedAt ∧ (st.counted number).endedAt = st.endedAt ∧
      (st.counted number).final = st.final := by
    unfold counted
    split <;> exact ⟨rfl, rfl, rfl⟩
  obtain ⟨hs, he, hfin⟩ := hcount
  refine ⟨?_, ?_⟩
  · cases hb : st.startedAt with
    | none => exact .inr ⟨hf, now, rfl, by simp [begun, logged, started, hs, hb]⟩
    | some b => exact .inl (by simp [begun, logged, started, hs, hb])
  · show Closes {now} (st.final, st.endedAt) ((st.counted number).final, (st.counted number).endedAt)
    rw [he, hfin]
    exact .kept _

/-- Whatever else is written to a record before it is closed, closing it gives it its end. -/
theorem passes_closed (now : Instant) (hs : t.startedAt = st.startedAt) (hf : st.final = false) :
    st.Passes {now} (t.closed now) :=
  ⟨.inl hs, by rw [hf]; exact .closed rfl⟩

end StepStatus

namespace Session

variable {s s₁ s₂ : Session}

theorem Passes.of_times (hs : s₁.steps = s.steps) (hn : s₁.taskName = s.taskName) (hb : s₁.startedAt = s.startedAt)
    (he : Closes T (s.isTerminal, s.endedAt) (s₁.isTerminal, s₁.endedAt)) : s.Passes T s₁ :=
  ⟨hn, hb, hs ▸ List.forall₂_same.mpr fun st _ => .refl st, he⟩

theorem Passes.refl (s : Session) : s.Passes T s := .of_times rfl rfl rfl (.kept _)

theorem Passes.trans (h : s.Passes T s₁) (h' : s₁.Passes T s₂) : s.Passes T s₂ where
  taskName := h'.taskName.trans h.taskName
  startedAt := h'.startedAt.trans h.startedAt
  records := by
    refine List.forall₂_iff_get.mpr ⟨h.records.length_eq.trans h'.records.length_eq, fun i hi hi₂ => ?_⟩
    have hi₁ : i < s₁.steps.length := h.records.length_eq ▸ hi
    exact (h.records.get hi hi₁).trans (h'.records.get hi₁ hi₂)
  endedAt := h.endedAt.trans h'.endedAt

theorem Passes.mono (h : s.Passes T s₁) (hT : T ⊆ T') : s.Passes T' s₁ :=
  ⟨h.taskName, h.startedAt, h.records.imp fun _ _ hst => hst.mono hT, h.endedAt.mono hT⟩

theorem Passes.of_record {done rest : List StepStatus} {st t : StepStatus} (hs : s.steps = done ++ st :: rest)
    (ht : s₁.steps = done ++ t :: rest) (hst : st.Passes T t) (hn : s₁.taskName = s.taskName)
    (hb : s₁.startedAt = s.startedAt) (he : s₁.endedAt = s.endedAt) (hstate : s₁.state = s.state) : s.Passes T s₁ where
  taskName := hn
  startedAt := hb
  records := by
    rw [hs, ht]
    exact List.rel_append (List.forall₂_same.mpr fun st _ => .refl st)
      (.cons hst (List.forall₂_same.mpr fun st _ => .refl st))
  endedAt := by
    rw [isTerminal, isTerminal, he, hstate]
    exact .kept _

end Session

end

namespace Monitor

section
variable {m m₁ : Monitor} {now : Moment}

/-! ## Moves -/

theorem stopping_passes (now : Moment) (m : Monitor) : m.session.Passes {now.wall} (m.stopping now).session := by
  unfold stopping
  split
  · exact .refl _
  · rename_i ht
    refine .of_times rfl rfl rfl ?_
    rw [Bool.eq_false_iff.mpr ht]
    exact .closed rfl

theorem concluding_passes (now : Moment) (m : Monitor) : m.session.Passes {now.wall} (m.concluding now).session := by
  unfold concluding
  split
  · exact .refl _
  · rename_i ht
    have hlast : m.lastState.isTerminal = true := by unfold lastState; split <;> rfl
    refine .of_times rfl rfl rfl ?_
    rw [Bool.eq_false_iff.mpr ht]
    show Closes {now.wall} _ (m.lastState.isTerminal, some now.wall)
    rw [hlast]
    exact .closed rfl

theorem passes_of_state {T : Set Instant} {s : Session} {state : SessionState} (hs : s.isTerminal = false)
    (hstate : state.isTerminal = false) : s.Passes T { s with state } := by
  refine .of_times rfl rfl rfl ?_
  rw [hs, show Session.isTerminal { s with state } = false from hstate]
  exact .kept _

section
variable {step : Step} {post : List Step} {done : List StepStatus} {st t : StepStatus} (h : m.At step post done st)
include h

theorem At.attempting_passes (now : Moment) (number : Nat) :
    m.session.Passes {now.wall} (m.attempting now step number done st (post.map StepStatus.ofStep)).session :=
  .of_record h.steps rfl (StepStatus.passes_begun now.wall number _ h.isOpen.final) rfl rfl rfl rfl

theorem At.settling_passes (now : Moment) (ht : t.startedAt = st.startedAt) :
    m.session.Passes {now.wall} (m.settling now done t (post.map StepStatus.ofStep)).session := by
  refine .of_record h.steps (settling_steps now done t _ m) (StepStatus.passes_closed now.wall ht h.isOpen.final) ?_ ?_ ?_ ?_ <;>
    rw [settling_session]

theorem At.failing_passes {T : Set Instant} (a : Attempt) (e : StepFault) :
    m.session.Passes T (m.failing done st (post.map StepStatus.ofStep) a e).session :=
  .of_record h.steps rfl ⟨.inl rfl, .kept _⟩ rfl rfl rfl rfl

end

theorem Enters.passes {post : List Step} {done : List StepStatus} {r : Monitor × Next}
    (he : Enters now m done post r) (hb : m.Before post done) (hs : m.session.StandsAt .running m.control.stopped) :
    m.session.Passes {now.wall} r.1.session := by
  cases he with
  | past => exact .refl _
  | stopped hst => exact stopping_passes now m
  | paused hst hpa =>
    have hrun : m.session.isTerminal = false := by
      rw [Session.isTerminal, (hs.of_not_stopped hst).1]
      rfl
    exact passes_of_state hrun rfl
  | begun hst hpa => exact At.attempting_passes hb now 1

section
variable {a : Attempt} {step : Step} {post : List Step} {done : List StepStatus} {st t : StepStatus} {e : StepFault}
  {r : Monitor × Next} (hs : m.session.StandsAt .running m.control.stopped)
include hs

theorem Advances.passes (h : m.At step post done st) (ht : t.startedAt = st.startedAt) (hn : Advances now m post done t r) :
    m.session.Passes {now.wall} r.1.session :=
  (h.settling_passes now ht).trans (hn.enters.passes hn.before (settling_stands hs now done t _))

theorem GivesUp.passes (h : m.At step post done st) (hn : GivesUp now m post done st r) :
    m.session.Passes {now.wall} r.1.session := by
  cases hn with
  | aborts => exact h.settling_passes now rfl
  | goesOn _ hn => exact hn.passes hs h rfl

theorem Fails.passes {r : Except Halt (Monitor × Next)} (h : m.At step post done st)
    (hn : Fails now m a step post done st e r) : m.session.Passes {now.wall} (leftBy r).session := by
  have hfail := h.failing_passes (T := {now.wall}) a e
  cases hn with
  | skipped _ hn => exact hn.passes hs h (t := st.faulted .skipped _ _) rfl
  | undelayed | retrying => exact hfail
  | exhausted _ _ hn => exact hfail.trans (hn.passes hs (h.failing a e))

end

/-- **Every turn stamps at its own moment.** -/
theorem Turns.passes {p : Plan} {c : Control} {r : Except Halt (Monitor × Next)} (ht : Turns now m r) (h : m.Inv p c) :
    m.session.Passes {now.wall} (leftBy r).session := by
  obtain ⟨rfl, rfl, hph⟩ := h
  have hsees : ∀ {a : Attempt} {o : Outcome}, m.Sees a o → m.session.StandsAt .running m.control.stopped := by
    rintro a o (hphase | ⟨expired, hphase⟩) <;> rw [hphase] at hph <;> exact hph.1
  have hres : ∀ {i : Nat}, m.phase = .parked i true → m.control.stopped = false →
      m.session.Passes {now.wall} (m.resuming now).session := by
    intro i hphase hst
    rw [hphase] at hph
    have hpau : m.session.isTerminal = false := by
      rw [Session.isTerminal, (hph.1.of_not_stopped hst).1]
      rfl
    exact passes_of_state hpau rfl
  cases ht with
  | idle _ | unstored _ _ _ _ | lost _ _ _ => exact .refl _
  | unparked _ _ => exact stopping_passes now m
  | resumed hphase hst _ hat =>
    obtain ⟨pre, hpost, hcut⟩ := hat
    exact (hres hphase hst).trans (At.attempting_passes (m := m.resuming now) ⟨pre, hpost, hcut.of_state⟩ now 1)
  | resumedPast hphase hst _ => exact hres hphase hst
  | passed hs htry _ hstore hn =>
    have hstart := congrArg StepStatus.startedAt (StepStatus.store_ok hstore)
    exact hn.passes (hsees hs) htry.here (t := StepStatus.passed _ _) hstart
  | failed hs _ htry _ hn => exact hn.passes (hsees hs) htry.here
  | graced _ _ _ _ => exact stopping_passes now m
  | cancelled _ htry _ => exact htry.here.settling_passes now rfl
  | deserted hphase hst htry _ hn =>
    rw [hphase] at hph
    have hs' : (m.stopping now).session.StandsAt .running (m.stopping now).control.stopped := by
      rw [stopping_control, hst]
      exact stopping_stands now (s := .running) rfl hph.1
    exact (stopping_passes now m).trans (hn.passes hs' (htry.here.stopping now))
  | retried _ _ htry _ => exact htry.here.attempting_passes now _

/-! ## The end of a run -/

section
variable {pre post : List Step} {done rest : List StepStatus} (hcut : m.session.Cut pre post done rest) (now : Moment)
include hcut

theorem winding_passes (reason : String) : m.session.Passes {now.wall} (m.winding now reason done rest).session := by
  rw [winding_eq now reason rest done m hcut.steps]
  refine ⟨rfl, rfl, ?_, .kept _⟩
  have hrest : List.Forall₂ (StepStatus.Passes {now.wall}) rest (rest.map (StepStatus.abandoned now.wall reason)) :=
    List.forall₂_map_right_iff.mpr (List.forall₂_same.mpr fun st hst =>
      StepStatus.passes_closed now.wall rfl (StepStatus.not_final_of_isPending (hcut.pending st hst)))
  rw [hcut.steps]
  exact List.rel_append (List.forall₂_same.mpr fun st _ => .refl st) hrest

theorem ending_passes : m.session.Passes {now.wall} (m.ending now done rest).session := by
  have hw := (winding_passes (m := { m with isFinished := true }) hcut now notExecuted).trans (concluding_passes now _)
  unfold ending
  simp only
  split <;> exact hw

end

theorem afterMove_passes {p : Plan} {c : Control} {r : Except Halt (Monitor × Next)} (hl : Lands p c r) (now : Moment) :
    (leftBy r).session.Passes {now.wall} (afterMove now r).session := by
  match r, hl with
  | .ok (m, .wait), _ => exact .refl _
  | .ok (m, .leave), hl =>
    obtain ⟨pre, post, done, rest, _, hcut⟩ := hl.split
    simp only [afterMove, finish_eq hcut.steps hcut.terminal hcut.pending, orRaised]
    exact ending_passes hcut now
  | .error ⟨m, f⟩, hl =>
    obtain ⟨pre, post, done, rest, _, hcut⟩ := hl.split
    have hcut₀ : (m.emit now .error [("error", .str f.message)]).session.Cut pre post done rest := hcut
    rw [afterMove_error now hcut]
    exact (winding_passes hcut₀ now (reasonOf f)).trans (ending_passes (Session.Cut.winding now (reasonOf f) hcut₀) now)

/-! ## Signals and runs -/

/-- **Every signal stamps at its own moment.** -/
theorem receive_passes {p : Plan} {c : Control} (h : m.phase ≠ .finished → m.Inv p c) (now : Moment) {s : Signal}
    (hs : s.isOfRun = true) : m.session.Passes {now.wall} (m.receive now s).session := by
  have hreceives := receive_receives h now hs
  generalize m.receive now s = m' at hreceives
  cases hreceives with
  | called _ | heard _ | closed _ _ | missed _ => exact .refl _
  | halted => exact stopping_passes now (m.applyControl .stop)
  | @begun _ r _ _ hstands hb he hl =>
    have hrun : m.session.Passes {now.wall} r.1.session := he.passes hb hstands
    exact hrun.trans (afterMove_passes hl now)
  | turned hinv _ ht hl => exact (ht.passes hinv).trans (afterMove_passes hl now)

theorem receiveAll_passes {p : Plan} {c : Control} {start : Instant} {id taskName : String}
    (hm : create start id taskName p c = .ok m) {signals : List (Moment × Signal)} (hs : ∀ x ∈ signals, x.2.isOfRun = true)
    {T : Set Instant} (later : List (Moment × Signal)) (hl : ∀ x ∈ later, x.2.isOfRun = true)
    (hT : ∀ x ∈ later, x.1.wall ∈ T) :
    (m.receiveAll signals).session.Passes T ((m.receiveAll signals).receiveAll later).session := by
  induction later using List.reverseRecOn with
  | nil => exact .refl _
  | append_singleton later x ih =>
    obtain ⟨hl, hx⟩ := List.forall_mem_append.mp hl
    obtain ⟨hT, hxT⟩ := List.forall_mem_append.mp hT
    have hinv := receiveAll_inv (signals ++ later) (create_inv hm) (List.forall_mem_append.mpr ⟨hs, hl⟩)
    rw [receiveAll_append] at hinv
    rw [receiveAll_snoc]
    have hstep := receive_passes hinv x.1 (hx x (by simp))
    exact (ih hl hT).trans (hstep.mono (Set.singleton_subset_iff.mpr (hxT x (by simp))))

end

end Monitor

/-! ## Times in order -/

def StepStatus.Precedes (st st' : StepStatus) : Prop := ∀ e ∈ st.endedAt, ∀ b ∈ st'.startedAt, e ≤ b

/-- The times of a record in a session that began at `start`, read at `now`. -/
structure StepStatus.Timed (start now : Instant) (st : StepStatus) : Prop where
  final : st.final = st.endedAt.isSome
  begun : ∀ b ∈ st.startedAt, start ≤ b ∧ b ≤ now
  ended : ∀ e ∈ st.endedAt, start ≤ e ∧ e ≤ now
  lasted : ∀ b ∈ st.startedAt, ∀ e ∈ st.endedAt, b ≤ e

/-- The times of a session, read at `now`. -/
structure Session.Timed (now : Instant) (s : Session) : Prop where
  began : s.startedAt ≤ now
  records : ∀ st ∈ s.steps, st.Timed s.startedAt now
  order : s.steps.Pairwise StepStatus.Precedes
  ended : ∀ e ∈ s.endedAt, s.startedAt ≤ e ∧ e ≤ now

section
variable {start now later : Instant}

theorem StepStatus.Timed.mono {st : StepStatus} (h : st.Timed start now) (hn : now ≤ later) : st.Timed start later :=
  ⟨h.final, fun b hb => (h.begun b hb).imp_right (·.trans hn), fun e he => (h.ended e he).imp_right (·.trans hn), h.lasted⟩

theorem StepStatus.Timed.passes {st st' : StepStatus} (h : st.Timed start now) (hn : start ≤ now)
    (hp : st.Passes {now} st') : st'.Timed start now := by
  have hbegun : ∀ b ∈ st'.startedAt, start ≤ b ∧ b ≤ now := by
    intro b hb
    rcases hp.mem_startedAt hb with hb | ⟨_, rfl⟩
    · exact h.begun b hb
    · exact ⟨hn, le_rfl⟩
  refine ⟨?_, hbegun, fun e he => ?_, fun b hb e he => ?_⟩
  · rcases hp.endedAt.elim with ⟨hf, he⟩ | ⟨_, hf, e, _, he⟩
    · rw [hf, he]
      exact h.final
    · rw [hf, he]
      rfl
  · rcases hp.mem_endedAt he with he | ⟨_, rfl⟩
    · exact h.ended e he
    · exact ⟨hn, le_rfl⟩
  · rcases hp.mem_endedAt he with he | ⟨_, rfl⟩
    · -- what has an end is final, and so its start has been kept
      have hf : st.final = true := by rw [h.final, Option.mem_def.mp he]; rfl
      exact h.lasted b ((hp.of_final hf).1 ▸ hb) e he
    · exact (hbegun b hb).2

namespace Session

variable {s s' : Session} {steps : List Step} {k : Nat}

theorem Timed.mono (h : s.Timed now) (hn : now ≤ later) : s.Timed later :=
  ⟨h.began.trans hn, fun st hst => (h.records st hst).mono hn, h.order, fun e he => (h.ended e he).imp_right (·.trans hn)⟩

/-- No step behind an open one has begun, so that whatever begins now does so
after the ends of those before it. -/
theorem Timed.passes (h : s.Timed now) (hset : s.HasSettled steps k) (hp : s.Passes {now} s') : s'.Timed now := by
  have hrecords : ∀ st ∈ s'.steps, st.Timed s'.startedAt now := by
    intro st hst
    obtain ⟨i, hi, rfl⟩ := List.getElem_of_mem hst
    have hi' : i < s.steps.length := hp.records.length_eq ▸ hi
    rw [hp.startedAt]
    exact (h.records _ (List.getElem_mem hi')).passes h.began (hp.records.get hi' hi)
  refine ⟨hp.startedAt ▸ h.began, hrecords, List.pairwise_iff_getElem.mpr ?_, fun e he => ?_⟩
  · intro i j hi hj hij e he b hb
    have hi' : i < s.steps.length := hp.records.length_eq ▸ hi
    have hj' : j < s.steps.length := hp.records.length_eq ▸ hj
    rcases (hp.records.get hj' hj).mem_startedAt hb with hb | ⟨_, rfl⟩
    · have hk : i < k := by
        by_contra hki
        have hst := hset.untouched j (by omega)
        rw [List.getElem?_eq_getElem hj', eq_comm, Option.map_eq_some_iff] at hst
        obtain ⟨step, _, hst⟩ := hst
        rw [List.get_eq_getElem, ← hst] at hb
        cases hb
      obtain ⟨st, hst, ht⟩ := hset.settled i hk
      obtain ⟨_, rfl⟩ := List.getElem?_eq_some_iff.mp hst
      have hkept := (hp.records.get hi' hi).of_final (StepStatus.final_of_isTerminal ht)
      exact List.pairwise_iff_getElem.mp h.order i j hi' hj' hij e (hkept.2.1 ▸ he) b hb
    · exact ((hrecords _ (List.getElem_mem hi)).ended e he).2
  · rw [hp.startedAt]
    rcases hp.endedAt.elim with ⟨_, heq⟩ | ⟨_, _, e', rfl, heq⟩
    · exact h.ended e (heq ▸ he)
    · rw [heq] at he
      exact Option.mem_some.mp he ▸ ⟨h.began, le_rfl⟩

theorem timed_ofSteps (now : Instant) (id taskName : String) (steps : List Step) :
    (ofSteps now id taskName steps).Timed now := by
  refine ⟨le_rfl, fun st hst => ?_, List.pairwise_map.mpr (List.pairwise_of_forall fun _ _ => nofun), nofun⟩
  obtain ⟨step, _, rfl⟩ := List.mem_map.mp hst
  exact ⟨rfl, nofun, nofun, nofun⟩

end Session

end

/-! ## The timeline of a run -/

/-- A settled session whose times are in order, but for how its end stands to
those of its records. -/
structure Session.HasTimeline (s : Session) : Prop where
  records : ∀ st ∈ s.steps, ∃ e, st.endedAt = some e ∧ s.startedAt ≤ e ∧ ∀ b ∈ st.startedAt, s.startedAt ≤ b ∧ b ≤ e
  order : s.steps.Pairwise StepStatus.Precedes
  ended : ∃ e, s.endedAt = some e ∧ s.startedAt ≤ e

theorem Session.Timed.hasTimeline {t : Instant} {p : Plan} {b : Bool} {s : Session} (h : s.Timed t) (hover : s.IsOver p b) :
    s.HasTimeline := by
  refine ⟨fun st hst => ?_, h.order, ?_⟩
  · have hrec := h.records st hst
    have hf := StepStatus.final_of_isTerminal (hover.cut.terminal st hst)
    rw [hrec.final] at hf
    obtain ⟨e, he⟩ := Option.isSome_iff_exists.mp hf
    exact ⟨e, he, (hrec.ended e he).1, fun b hb => ⟨(hrec.begun b hb).1, hrec.lasted b hb e he⟩⟩
  · obtain ⟨e, he⟩ := Option.isSome_iff_exists.mp hover.ended
    exact ⟨e, he, (h.ended e he).1⟩

namespace Monitor

/-- The instants at which a run is told something, behind that of its creation. -/
def instants (now : Instant) (signals : List (Moment × Signal)) : List Instant := now :: signals.map fun x => x.1.wall

theorem instants_append (now : Instant) (signals later : List (Moment × Signal)) :
    instants now (signals ++ later) = instants now signals ++ later.map fun x => x.1.wall := by simp [instants]

theorem instants_append_singleton (now : Instant) (signals : List (Moment × Signal)) (x : Moment × Signal) :
    instants now (signals ++ [x]) = instants now signals ++ [x.1.wall] := instants_append now signals [x]

section
variable {m : Monitor} {p : Plan} {c : Control} {now : Instant} {id taskName : String}
  (hm : create now id taskName p c = .ok m)
include hm

theorem create_timed : m.session.Timed now ∧ m.session.isTerminal = false := by
  rw [create_eq hm]
  exact ⟨Session.timed_ofSteps now id taskName p.steps, rfl⟩

variable {signals : List (Moment × Signal)} (hs : ∀ x ∈ signals, x.2.isOfRun = true)
include hs

/-- **As long as the clock does not run backwards, all times are in order.** -/
theorem receiveAll_timed (hclock : (instants now signals).Pairwise (· ≤ ·)) :
    (m.receiveAll signals).session.Timed ((instants now signals).getLast (List.cons_ne_nil _ _)) := by
  induction signals using List.reverseRecOn with
  | nil => exact (create_timed hm).1
  | append_singleton signals x ih =>
    obtain ⟨hs, hx⟩ := List.forall_mem_append.mp hs
    simp only [instants_append_singleton, List.getLast_append_singleton] at hclock ⊢
    obtain ⟨hclock, _, hlast⟩ := List.pairwise_append.mp hclock
    have hbefore := (ih hs hclock).mono (hlast _ (List.getLast_mem _) x.1.wall (by simp))
    obtain ⟨k, hset⟩ := receiveAll_hasSettled hm hs
    rw [receiveAll_snoc]
    exact hbefore.passes hset (receive_passes (receiveAll_inv signals (create_inv hm) hs) x.1 (hx x (by simp)))

/-- A session that is over has come to it under one of the signals. -/
theorem receiveAll_ends (ht : (m.receiveAll signals).session.isTerminal = true) :
    ∃ before t x after, signals = before ++ (t, x) :: after ∧ (m.receiveAll before).session.isTerminal = false ∧
      (m.receiveAll (before ++ [(t, x)])).session.isTerminal = true := by
  induction signals using List.reverseRecOn with
  | nil => exact absurd ((create_timed hm).2.symm.trans ht) nofun
  | append_singleton signals y ih =>
    cases hb : (m.receiveAll signals).session.isTerminal with
    | false => exact ⟨signals, y.1, y.2, [], rfl, hb, ht⟩
    | true =>
      obtain ⟨before, t, x, after, rfl, hopen, hend⟩ := ih (List.forall_mem_append.mp hs).1 hb
      exact ⟨before, t, x, after ++ [y], by simp, hopen, hend⟩

/-- At the end of a session all its records are final, unless a stop has been asked for. -/
theorem receiveAll_final (ht : (m.receiveAll signals).session.isTerminal = true)
    (hst : (c.stopped || signals.any (·.2.asksStop)) = false) : ∀ st ∈ (m.receiveAll signals).session.steps, st.final = true := by
  have hw : (m.receiveAll signals).phase.isWoundUp = true := by
    by_contra hw
    have hinv := receiveAll_inv signals (create_inv hm) hs fun hfin => hw (by rw [hfin]; rfl)
    have hstopped := (hinv.stopped_of_isTerminal (Bool.eq_false_iff.mpr hw) ht).2
    rw [Control.afterAll_stopped, hst] at hstopped
    cases hstopped
  obtain ⟨b, hover⟩ := receiveAll_isOver hm hs hw
  exact fun st hst => StepStatus.final_of_isTerminal (hover.cut.terminal st hst)

end

private def slowClick : Plan where
  steps := [⟨"step-1", 1, .click "#slow", [], {}⟩]
  delay _ _ := .ok (.part (.ofNat 1))

private def minute (n : Nat) : Moment := ⟨⟨60000000 * n⟩, .ofNat (60 * n)⟩

private def freshSlowClick : Monitor :=
  { plan := slowClick, session := .ofSteps (minute 0).wall "session" "task" slowClick.steps }

/-- A stop comes in the second minute of the click, and its end in the third. -/
private def stoppedClick : List (Moment × Signal) :=
  [(minute 0, .start), (minute 1, .stop), (minute 1, .turn), (minute 2, .outcome (.finished .nothing)),
    (minute 2, .turn), (minute 3, .closed)]

end Monitor

end BrowserPilot
