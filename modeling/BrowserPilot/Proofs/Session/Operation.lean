import BrowserPilot.Proofs.Monitor.Effects
import BrowserPilot.Session.Basic

/-!
# Operations on records and sessions

An operation writes field after field, and a fault would leave behind what has
been written before it. Every operation checks before it writes, so that it
makes its change as a whole or none at all.
-/

namespace BrowserPilot

/-! ## Writes -/

/-- Writes to a state, one after the other. A fault ends them; those before it have been made. -/
abbrev Writes (σ : Type) := ExceptT Fault (StateM σ)

namespace Writes

variable {σ α β : Type}

def perform (w : Writes σ α) (s : σ) : Except Fault α × σ := ExceptT.run w s

@[simp] theorem perform_bind (w : Writes σ α) (f : α → Writes σ β) (s : σ) :
    (w >>= f).perform s = match w.perform s with
      | (.ok a, s') => (f a).perform s'
      | (.error e, s') => (.error e, s') := by
  show (ExceptT.bindCont f (w.perform s).1).run (w.perform s).2 = _
  rcases w.perform s with ⟨_ | _, s'⟩ <;> rfl

@[simp] theorem perform_pure (a : α) (s : σ) : perform (pure a) s = (.ok a, s) := rfl

@[simp] theorem perform_get (s : σ) : perform get s = (.ok s, s) := rfl

@[simp] theorem perform_modify (f : σ → σ) (s : σ) : perform (modify f) s = (.ok (), f s) := rfl

@[simp] theorem perform_throw (e : Fault) (s : σ) : perform (throw e : Writes σ α) s = (.error e, s) := rfl

/-- Writes that come down to a change. With a fault they leave all as it was. -/
def Makes (w : Writes σ Unit) (f : σ → Except Fault σ) : Prop :=
  ∀ s, (∃ s', f s = .ok s' ∧ w.perform s = (.ok (), s')) ∨ ∃ e, f s = .error e ∧ w.perform s = (.error e, s)

theorem makes_of_eq {w : Writes σ Unit} {f : σ → Except Fault σ}
    (h : ∀ s, w.perform s = match f s with
      | .ok s' => (.ok (), s')
      | .error e => (.error e, s)) : w.Makes f := by
  intro s
  specialize h s
  cases hf : f s with
  | ok s' =>
    rw [hf] at h
    exact .inl ⟨s', rfl, h⟩
  | error e =>
    rw [hf] at h
    exact .inr ⟨e, rfl, h⟩

theorem Makes.leaves {w : Writes σ Unit} {f : σ → Except Fault σ} (h : w.Makes f) (s : σ) :
    ((w.perform s).1.isOk = true ∧ f s = .ok (w.perform s).2) ∨
      ((w.perform s).1.isOk = false ∧ (w.perform s).2 = s) := by
  obtain ⟨s', hf, hw⟩ | ⟨e, -, hw⟩ := h s
  · rw [hw]
    exact .inl ⟨rfl, hf⟩
  · rw [hw]
    exact .inr ⟨rfl, rfl⟩

end Writes

/-! ## Records

An operation is given twice: by the change it comes down to, and by its writes.
All that is said of a history is said of the writes. -/

namespace StepStatus

inductive Operation where
  | transition (new : StepState)
  | log (line : String)
  | finalize
  deriving DecidableEq

namespace Operation

def isRun : Operation → Bool
  | transition .running => true
  | _ => false

def change (now : Instant) : Operation → StepStatus → Except Fault StepStatus
  | transition new => StepStatus.transition now new
  | log line => StepStatus.log line
  | finalize => StepStatus.finalize now

def writes (now : Instant) : Operation → Writes StepStatus Unit
  | transition new => do
    let st ← get
    if st.final || !st.state.canBecome new then throw (.illegalTransition st.state.name new.name)
    if new = .running && st.startedAt.isNone then modify fun st => { st with startedAt := some now }
    modify fun st => { st with state := new }
  | log line => do
    let st ← get
    if st.final then throw (.illegalTransition st.state.name "log")
    modify fun st => { st with logs := st.logs ++ [line] }
  | finalize => do
    let st ← get
    if !st.state.isTerminal then throw (.illegalTransition st.state.name "final")
    modify fun st => { st with endedAt := some now }
    match st.startedAt with
    | some start => modify fun st => { st with durationMs := some (start.millisecondsTo now) }
    | none => pure ()
    modify fun st => { st with final := true }

theorem writes_makes (op : Operation) (now : Instant) : (op.writes now).Makes (op.change now) := by
  refine Writes.makes_of_eq fun st => ?_
  cases op with
  | transition new =>
    simp only [writes, change, StepStatus.transition]
    by_cases h : (st.final || !st.state.canBecome new) = true
    · simp only [h, if_true, Writes.perform_bind, Writes.perform_get, Writes.perform_throw]
    · by_cases h' : (new = .running && st.startedAt.isNone) = true
      · simp only [h, h', if_true, if_false, Bool.false_eq_true, Writes.perform_bind, Writes.perform_get,
          Writes.perform_modify]
      · simp only [h, h', if_false, Bool.false_eq_true, Writes.perform_bind, Writes.perform_get, Writes.perform_modify]
  | log line => cases h : st.final <;> simp [writes, change, StepStatus.log, h]
  | finalize =>
    cases h : st.state.isTerminal with
    | false => simp [writes, change, StepStatus.finalize, h]
    | true => cases hs : st.startedAt <;> simp [writes, change, StepStatus.finalize, h, hs]

end Operation

inductive Changes (st : StepStatus) (now : Instant) : Operation → StepStatus → Prop where
  | runs (hf : st.final = false) (hc : st.state.canBecome .running = true) :
    Changes st now (.transition .running) (st.started now)
  | moves {new : StepState} (hf : st.final = false) (hc : st.state.canBecome new = true) (hn : new ≠ .running) :
    Changes st now (.transition new) (st.inState new)
  | logs {line : String} (hf : st.final = false) : Changes st now (.log line) (st.logged line)
  | closes (ht : st.state.isTerminal = true) : Changes st now .finalize (st.closed now)

theorem changes_of_change {st st' : StepStatus} {now : Instant} {op : Operation} (h : op.change now st = .ok st') :
    st.Changes now op st' := by
  cases op with
  | transition new =>
    by_cases hg : (st.final || !st.state.canBecome new) = true
    · simp [Operation.change, transition, hg] at h
    · simp only [Bool.or_eq_true, Bool.not_eq_true', not_or, Bool.not_eq_true, Bool.not_eq_false] at hg
      by_cases hn : new = .running
      · subst hn
        cases (transition_running now hg.1 hg.2).symm.trans h
        exact .runs hg.1 hg.2
      · cases (transition_ok now hg.1 hg.2 hn).symm.trans h
        exact .moves hg.1 hg.2 hn
  | log line =>
    cases hf : st.final with
    | true => simp [Operation.change, log, hf] at h
    | false =>
      cases (log_ok line hf).symm.trans h
      exact .logs hf
  | finalize =>
    cases ht : st.state.isTerminal with
    | false => simp [Operation.change, finalize, ht] at h
    | true =>
      cases (finalize_ok now ht).symm.trans h
      exact .closes ht

def accepts (st : StepStatus) (x : Instant × Operation) : Bool := ((x.2.writes x.1).perform st).1.isOk

def after (st : StepStatus) (x : Instant × Operation) : StepStatus := ((x.2.writes x.1).perform st).2

def afterAll (st : StepStatus) (history : List (Instant × Operation)) : StepStatus := history.foldl after st

theorem after_cases (st : StepStatus) (x : Instant × Operation) :
    (st.accepts x = true ∧ st.Changes x.1 x.2 (st.after x)) ∨ (st.accepts x = false ∧ st.after x = st) := by
  rcases (x.2.writes_makes x.1).leaves st with ⟨ha, hc⟩ | hrefused
  · exact .inl ⟨ha, changes_of_change hc⟩
  · exact .inr hrefused

theorem afterAll_append (st : StepStatus) (history later : List (Instant × Operation)) :
    st.afterAll (history ++ later) = (st.afterAll history).afterAll later := List.foldl_append

end StepStatus

/-! ## Sessions -/

namespace Session

inductive Operation where
  | onStep (i : Nat) (op : StepStatus.Operation)
  | setState (new : SessionState)
  /-- Counts a record, be it one of the session or not. -/
  | record (st : StepStatus)

def writesAt (i : Nat) (w : Writes StepStatus Unit) : Writes Session Unit := ExceptT.mk fun s =>
  match s.steps[i]? with
  | none => (.ok (), s)
  | some st => ((w.perform st).1, { s with steps := s.steps.set i (w.perform st).2 })

theorem perform_writesAt (i : Nat) (w : Writes StepStatus Unit) (s : Session) :
    (writesAt i w).perform s = match s.steps[i]? with
      | none => (.ok (), s)
      | some st => ((w.perform st).1, { s with steps := s.steps.set i (w.perform st).2 }) := rfl

namespace Operation

def change (now : Instant) : Operation → Session → Except Fault Session
  | onStep i op => updateStep i (op.change now)
  | setState new => Session.setState now new
  | record st => fun s => .ok (s.recordOutcome st)

def writes (now : Instant) : Operation → Writes Session Unit
  | onStep i op => writesAt i (op.writes now)
  | setState new => do
    let s ← get
    if !s.state.canBecome new then throw (.illegalTransition s.state.name new.name)
    modify fun s => { s with state := new }
    if new.isTerminal then modify fun s => { s with endedAt := some now }
  | record st => modify (recordOutcome st)

theorem writes_makes (op : Operation) (now : Instant) : (op.writes now).Makes (op.change now) := by
  cases op with
  | onStep i op =>
    intro s
    simp only [change, writes, updateStep, perform_writesAt]
    cases hi : s.steps[i]? with
    | none => exact .inl ⟨s, rfl, rfl⟩
    | some st =>
      dsimp only
      obtain ⟨st', hc, hw⟩ | ⟨e, hc, hw⟩ := op.writes_makes now st
      · rw [hc, hw]
        exact .inl ⟨_, rfl, rfl⟩
      · -- the record is put back as it was
        obtain ⟨hlt, rfl⟩ := List.getElem?_eq_some_iff.mp hi
        rw [hc, hw, List.set_getElem_self]
        exact .inr ⟨e, rfl, rfl⟩
  | setState new =>
    refine Writes.makes_of_eq fun s => ?_
    cases hc : s.state.canBecome new with
    | false => simp [writes, change, Session.setState, hc]
    | true => cases ht : new.isTerminal <;> simp [writes, change, Session.setState, hc, ht]
  | record st => exact fun s => .inl ⟨_, rfl, rfl⟩

def runs (i : Nat) : Operation → Bool
  | onStep j op => i == j && op.isRun
  | _ => false

def at? (i : Nat) : Instant × Operation → Option (Instant × StepStatus.Operation)
  | (t, onStep j op) => if i = j then some (t, op) else none
  | _ => none

end Operation

inductive Changes (s : Session) (now : Instant) : Operation → Session → Prop where
  | nowhere {i : Nat} {op : StepStatus.Operation} (hi : s.steps[i]? = none) : Changes s now (.onStep i op) s
  | onStep {i : Nat} {op : StepStatus.Operation} {st st' : StepStatus} (hi : s.steps[i]? = some st)
    (h : st.Changes now op st') : Changes s now (.onStep i op) { s with steps := s.steps.set i st' }
  | setState {new : SessionState} (hc : s.state.canBecome new = true) :
    Changes s now (.setState new) { s with state := new, endedAt := if new.isTerminal then some now else s.endedAt }
  | record {st : StepStatus} : Changes s now (.record st) (s.recordOutcome st)

theorem changes_of_change {s s' : Session} {now : Instant} {op : Operation} (h : op.change now s = .ok s') :
    s.Changes now op s' := by
  cases op with
  | onStep i op =>
    simp only [Operation.change, updateStep] at h
    cases hi : s.steps[i]? with
    | none =>
      rw [hi] at h
      cases h
      exact .nowhere hi
    | some st =>
      rw [hi] at h
      cases hc : op.change now st with
      | error e => simp [hc, Except.map] at h
      | ok st' =>
        simp only [hc, Except.map, Except.ok.injEq] at h
        exact h ▸ .onStep hi (StepStatus.changes_of_change hc)
  | setState new =>
    cases hc : s.state.canBecome new with
    | false => simp [Operation.change, Session.setState, hc] at h
    | true =>
      simp only [Operation.change, Session.setState, hc, if_true, Except.ok.injEq] at h
      exact h ▸ .setState hc
  | record st =>
    cases h
    exact .record

def accepts (s : Session) (x : Instant × Operation) : Bool := ((x.2.writes x.1).perform s).1.isOk

def after (s : Session) (x : Instant × Operation) : Session := ((x.2.writes x.1).perform s).2

def afterAll (s : Session) (history : List (Instant × Operation)) : Session := history.foldl after s

def accepted (s : Session) : List (Instant × Operation) → List (Instant × Operation)
  | [] => []
  | x :: history => if s.accepts x then x :: (s.after x).accepted history else (s.after x).accepted history

theorem after_cases (s : Session) (x : Instant × Operation) :
    (s.accepts x = true ∧ s.Changes x.1 x.2 (s.after x)) ∨ (s.accepts x = false ∧ s.after x = s) := by
  rcases (x.2.writes_makes x.1).leaves s with ⟨ha, hc⟩ | hrefused
  · exact .inl ⟨ha, changes_of_change hc⟩
  · exact .inr hrefused

end Session

end BrowserPilot
