import BrowserPilot.Proofs.Event.Attribution
import BrowserPilot.Proofs.Session.Operation
import Mathlib.Data.List.Induction

/-!
# What a sink holds

Sinks come and go on a bus, and some of them raise on every event. What a sink
that keeps its events holds in the end is a matter of its own registrations and
of the events: the other sinks do not show in it, and what one of them raises is
caught before the next is served.
-/

namespace BrowserPilot

theorem Writes.perform_tryCatch {σ α : Type} (w : Writes σ α) (handler : Fault → Writes σ α) (s : σ) :
    (tryCatch w handler).perform s = match w.perform s with
      | (.ok a, s') => (.ok a, s')
      | (.error f, s') => (handler f).perform s' := by
  show StateT.run (ExceptT.run (tryCatch w handler)) s = _
  rw [ExceptT.run_tryCatch, StateT.run_bind]
  have hrun : StateT.run (ExceptT.run w) s = w.perform s := rfl
  rw [hrun]
  rcases w.perform s with ⟨_ | _, s'⟩ <;> rfl

namespace Sink

def take (e : Event) (s : Sink) : Except Fault (Sink × List LogRecord) :=
  match s.kind with
  | .failing kind message => .error (.foreign kind message)
  | _ => .ok (s.handle e)

def complaint (f : Fault) : LogRecord := ⟨.warning, "EventBus sink error (" ++ f.kind ++ "): " ++ f.message⟩

theorem take_cases (e : Event) (s : Sink) :
    s.take e = .ok (s.handle e) ∨ ∃ f, s.take e = .error f ∧ s.handle e = (s, [complaint f]) := by
  unfold take handle
  cases s.kind with
  | memory => exact .inl rfl
  | stream => exact .inl rfl
  | logger => exact .inl rfl
  | failing kind message => exact .inr ⟨_, rfl, rfl⟩

end Sink

namespace Bus

/-! ## The loop over the sinks -/

abbrev WithLog := Bus × List LogRecord

def hand (e : Event) (i : Nat) : Writes WithLog Unit := do
  let (b, logs) ← get
  match b.sinks[i]? with
  | none => pure ()
  | some s =>
    match s.take e with
    | .error f => throw f
    | .ok (s, more) => modify fun _ => ({ b with sinks := b.sinks.set i s }, logs ++ more)

/-- What a sink raises is logged, and the next one gets the event. -/
def handAll (e : Event) : List Nat → Writes WithLog Unit
  | [] => pure ()
  | i :: places => do
    tryCatch (hand e i) fun f => modify fun (b, logs) => (b, logs ++ [Sink.complaint f])
    handAll e places

theorem perform_hand (e : Event) (i : Nat) (b : Bus) (logs : List LogRecord) :
    (hand e i).perform (b, logs) = match b.sinks[i]? with
      | none => (.ok (), (b, logs))
      | some s => match s.take e with
        | .error f => (.error f, (b, logs))
        | .ok (s, more) => (.ok (), ({ b with sinks := b.sinks.set i s }, logs ++ more)) := by
  rw [hand, Writes.perform_bind, Writes.perform_get]
  cases hi : b.sinks[i]? with
  | none => simp [hi]
  | some s => cases hs : s.take e <;> simp [hi, hs]

theorem perform_handAll (e : Event) (places : List Nat) : ∀ (b : Bus) (logs : List LogRecord),
    (handAll e places).perform (b, logs) =
      (.ok (), ({ b with sinks := (deliver e places b.sinks).1 }, logs ++ (deliver e places b.sinks).2)) := by
  induction places with
  | nil => intro b logs; simp [handAll, deliver]
  | cons i places ih =>
    intro b logs
    rw [handAll, Writes.perform_bind, Writes.perform_tryCatch, perform_hand, deliver]
    cases hi : b.sinks[i]? with
    | none => simpa using ih b logs
    | some s =>
      rcases s.take_cases e with htake | ⟨f, htake, hhandle⟩
      · simp [htake, ih]
      · -- the sink stays as it is, and so does the bus
        obtain ⟨hlt, rfl⟩ := List.getElem?_eq_some_iff.mp hi
        simp [htake, hhandle, ih]

def emitting (now : Moment) (kind : EventKind) (data : Json.Members) : Writes WithLog Unit := do
  let (b, _) ← get
  match b.snapshot.update now.seconds kind data with
  | .error f => throw f
  | .ok snapshot =>
    modify fun (b, logs) => ({ b with snapshot }, logs)
    handAll ⟨kind, now.wall.withOffset, b.sessionId, data⟩ b.registered

theorem emitting_makes (now : Moment) (kind : EventKind) (data : Json.Members) :
    (emitting now kind data).Makes fun (b, logs) => (b.emit now kind data).map fun (b, more) => (b, logs ++ more) := by
  refine Writes.makes_of_eq fun (b, logs) => ?_
  simp only [emitting, emit, Writes.perform_bind, Writes.perform_get]
  cases b.snapshot.update now.seconds kind data with
  | error f => simp [Except.map]
  | ok snapshot => simp [Except.map, perform_handAll]

/-! ## Operations -/

inductive Operation where
  | add (i : Nat)
  | remove (i : Nat)
  | emit (now : Moment) (name : String) (data : Json.Members)
  | rename (id : String)
  | clear (i : Nat)

namespace Operation

def writes : Operation → Writes WithLog Unit
  | add i => modify fun (b, logs) => (b.addSink i, logs)
  | remove i => modify fun (b, logs) => (b.removeSink i, logs)
  | emit now name data => emitting now (.ofName name) data
  | rename id => modify fun (b, logs) => ({ b with sessionId := id }, logs)
  | clear i => modify fun (b, logs) => (b.updateSink i Sink.clear, logs)

/-- An emission of a progress that is no number. -/
def isRefused : Operation → Bool
  | emit _ name data => EventKind.ofName name == .progress &&
    (Json.get? data "progress").any fun v => !(Snapshot.progressOf v).isOk
  | _ => false

def adds (i : Nat) : Operation → Bool
  | add j => j == i
  | _ => false

def removes (i : Nat) : Operation → Bool
  | remove j => j == i
  | _ => false

def clears (i : Nat) : Operation → Bool
  | clear j => j == i
  | _ => false

def renames? : Operation → Option String
  | rename id => some id
  | _ => none

end Operation

def operate (x : WithLog) (op : Operation) : WithLog := (op.writes.perform x).2

def operateAll (x : WithLog) (ops : List Operation) : WithLog := ops.foldl operate x

section
variable (x : WithLog)

theorem operate_add (i : Nat) : (operate x (.add i)).1 = x.1.addSink i := rfl

theorem operate_remove (i : Nat) : (operate x (.remove i)).1 = x.1.removeSink i := rfl

theorem operate_clear (i : Nat) : (operate x (.clear i)).1 = x.1.updateSink i Sink.clear := rfl

theorem operate_emit (now : Moment) (name : String) (data : Json.Members) :
    (operate x (.emit now name data)).1 = x.1.hear ⟨now, .ofName name, data⟩ := by
  obtain ⟨b, logs⟩ := x
  simp only [operate, Operation.writes, hear]
  rcases emitting_makes now (.ofName name) data (b, logs) with ⟨x', hx, hw⟩ | ⟨f, hx, hw⟩
  · rw [hw]
    cases he : b.emit now (.ofName name) data with
    | error f => simp [he, Except.map] at hx
    | ok r =>
      simp only [he, Except.map, Except.ok.injEq] at hx
      rw [← hx]
  · rw [hw]
    cases he : b.emit now (.ofName name) data with
    | error f => rfl
    | ok r => simp [he, Except.map] at hx

end

theorem admits_eq (b : Bus) (now : Moment) (name : String) (data : Json.Members) :
    b.admits ⟨now, .ofName name, data⟩ = !(Operation.emit now name data).isRefused := by
  simp only [admits, Operation.isRefused]
  cases EventKind.ofName name with
  | progress =>
    simp only [Snapshot.update]
    cases Json.get? data "progress" with
    | none => rfl
    | some v => cases h : Snapshot.progressOf v <;> simp [h, Except.map, Except.isOk, Except.toBool]
  | _ => rfl

/-- An operation returns, or it is an emission that is refused and leaves no trace. -/
theorem operate_refused (x : WithLog) (op : Operation) :
    (op.writes.perform x).1.isOk = !op.isRefused ∧ (op.isRefused = true → operate x op = x) := by
  cases op with
  | add i => exact ⟨rfl, nofun⟩
  | remove i => exact ⟨rfl, nofun⟩
  | rename id => exact ⟨rfl, nofun⟩
  | clear i => exact ⟨rfl, nofun⟩
  | emit now name data =>
    have hadmits := x.1.admits_eq now name data
    have hok : ((x.1.emit now (.ofName name) data).map fun (b, more) => (b, x.2 ++ more)).isOk =
        x.1.admits ⟨now, .ofName name, data⟩ := by
      unfold admits emit
      cases x.1.snapshot.update now.seconds (.ofName name) data <;> rfl
    simp only [operate, Operation.writes]
    rcases emitting_makes now (.ofName name) data x with ⟨x', hx, hw⟩ | ⟨f, hx, hw⟩
    · have hnot : (Operation.emit now name data).isRefused = false := by
        simpa [hx, hadmits, Except.isOk, Except.toBool] using hok
      simp [hw, hnot, Except.isOk, Except.toBool]
    · have hrefused : (Operation.emit now name data).isRefused = true := by
        simpa [hx, hadmits, Except.isOk, Except.toBool] using hok
      simp [hw, hrefused, Except.isOk, Except.toBool]

/-! ## Histories -/

def since (p : Operation → Bool) (ops : List Operation) : List Operation := ops.reverse.takeWhile fun op => !p op

def registrations (i : Nat) (ops : List Operation) : Nat := (since (Operation.removes i) ops).countP (Operation.adds i)

def speaker (id : String) (ops : List Operation) : String := (ops.reverse.findSome? Operation.renames?).getD id

/-- What a sink takes of an operation: an event that is not refused, once for every registration. -/
def copies (id : String) (i : Nat) (before : List Operation) : Operation → List Event
  | .emit now name data =>
    if (Operation.emit now name data).isRefused then []
    else List.replicate (registrations i before) ⟨.ofName name, now.wall.withOffset, speaker id before, data⟩
  | _ => []

/-- What a sink takes of the operations that it is not cleared after, in their order. -/
def held (id : String) (i : Nat) (ops : List Operation) : List Event :=
  ((List.range ops.length).filter fun k => !(ops.drop k).any (Operation.clears i)).flatMap fun k =>
    (ops[k]?.map (copies id i (ops.take k))).getD []

theorem since_snoc (p : Operation → Bool) (ops : List Operation) (op : Operation) :
    since p (ops ++ [op]) = if p op then [] else op :: since p ops := by
  cases h : p op <;> simp [since, h]

theorem registrations_snoc (i : Nat) (ops : List Operation) (op : Operation) :
    registrations i (ops ++ [op]) =
      if op.removes i then 0 else registrations i ops + if op.adds i then 1 else 0 := by
  unfold registrations
  rw [since_snoc]
  split
  · rfl
  · rw [List.countP_cons]

theorem speaker_snoc (id : String) (ops : List Operation) (op : Operation) :
    speaker id (ops ++ [op]) = op.renames?.getD (speaker id ops) := by
  simp only [speaker, List.reverse_append, List.reverse_cons, List.reverse_nil, List.nil_append, List.cons_append,
    List.findSome?_cons]
  cases op.renames? <;> rfl

theorem held_snoc (id : String) (i : Nat) (ops : List Operation) (op : Operation) :
    held id i (ops ++ [op]) = if op.clears i then [] else held id i ops ++ copies id i ops op := by
  have hearlier : ∀ k ∈ List.range ops.length, k < ops.length := fun k hk => List.mem_range.mp hk
  have hany : ∀ k < ops.length, ((ops ++ [op]).drop k).any (Operation.clears i) = ((ops.drop k).any (Operation.clears i) || op.clears i) := by
    intro k hk
    simp [List.drop_append_of_le_length (Nat.le_of_lt hk)]
  have hcopies : ∀ k < ops.length, ((ops ++ [op])[k]?.map (copies id i ((ops ++ [op]).take k))).getD [] =
      (ops[k]?.map (copies id i (ops.take k))).getD [] := by
    intro k hk
    rw [List.getElem?_append_left hk, List.take_append_of_le_length (Nat.le_of_lt hk)]
  unfold held
  rw [List.length_append, List.length_singleton, List.range_succ, List.filter_append, List.flatMap_append]
  by_cases hclear : op.clears i = true
  · have hnone : (List.range ops.length).filter (fun k => !((ops ++ [op]).drop k).any (Operation.clears i)) = [] := by
      apply List.filter_eq_nil_iff.mpr
      intro k hk
      simp [hany k (hearlier k hk), hclear]
    simp [hnone, hclear]
  · have hsame : (List.range ops.length).filter (fun k => !((ops ++ [op]).drop k).any (Operation.clears i)) =
        (List.range ops.length).filter fun k => !(ops.drop k).any (Operation.clears i) := by
      apply List.filter_congr
      intro k hk
      simp [hany k (hearlier k hk), hclear]
    rw [hsame, if_neg hclear]
    congr 1
    · rw [List.flatMap_def, List.flatMap_def]
      congr 1
      apply List.map_congr_left
      intro k hk
      exact hcopies k (hearlier k (List.mem_filter.mp hk).1)
    · simp [hclear]

/-! ## What an operation does to a sink -/

def assembled (now : Binary64) (id : String) (kinds : List SinkKind) : WithLog :=
  ({ start now id with sinks := kinds.map fun kind => { kind } }, [])

theorem handle_kind (e : Event) (s : Sink) : (s.handle e).1.kind = s.kind := by
  unfold Sink.handle
  split <;> rfl

theorem afterAll_kind (events : List Event) : ∀ s : Sink, (s.afterAll events).kind = s.kind := by
  induction events with
  | nil => intro s; rfl
  | cons e events ih =>
    intro s
    exact (ih _).trans (handle_kind e s)

theorem afterAll_events (events : List Event) : ∀ s : Sink, s.kind = .memory →
    (s.afterAll events).events = s.events ++ events := by
  induction events with
  | nil => intro s _; exact (List.append_nil _).symm
  | cons e events ih =>
    intro s hs
    have hnext := ih (s.handle e).1 ((handle_kind e s).trans hs)
    have hevents : (s.handle e).1.events = s.events ++ [e] := by simp [Sink.handle, hs]
    rw [hevents, List.append_assoc] at hnext
    exact hnext

section
variable (x : WithLog) (op : Operation)

theorem operate_sessionId : (operate x op).1.sessionId = op.renames?.getD x.1.sessionId := by
  cases op with
  | emit now name data => rw [operate_emit]; exact hear_sessionId x.1 _
  | add | remove | rename | clear => rfl

theorem operate_count (i : Nat) : (operate x op).1.registered.count i =
    if op.removes i then 0 else x.1.registered.count i + if op.adds i then 1 else 0 := by
  cases op with
  | add j => simp [operate_add, addSink, Operation.removes, Operation.adds, List.count_append, List.count_singleton]
  | remove j =>
    by_cases hij : j = i
    · subst hij
      have hnone : (x.1.registered.filter (· != j)).count j = 0 := List.count_eq_zero.mpr (by simp)
      simp [operate_remove, removeSink, Operation.removes, hnone]
    · have hcount : (x.1.registered.filter (· != j)).count i = x.1.registered.count i :=
        List.count_filter (bne_iff_ne.mpr (Ne.symm hij))
      simp [operate_remove, removeSink, Operation.removes, Operation.adds, hij, hcount]
  | emit now name data =>
    rw [operate_emit]
    rcases x.1.hear_cases ⟨now, .ofName name, data⟩ with ⟨-, -, hregistered, -⟩ | ⟨-, hsame⟩
    · simp [hregistered, Operation.removes, Operation.adds]
    · simp [hsame, Operation.removes, Operation.adds]
  | rename | clear => rfl

theorem operate_kind (i : Nat) : (operate x op).1.sinks[i]?.map Sink.kind = x.1.sinks[i]?.map Sink.kind := by
  cases op with
  | clear j =>
    simp only [operate_clear, updateSink, List.getElem?_modify]
    cases x.1.sinks[i]? with
    | none => rfl
    | some s => by_cases hij : j = i <;> simp [hij, Sink.clear]
  | emit now name data =>
    rw [operate_emit]
    rcases x.1.hear_cases ⟨now, .ofName name, data⟩ with ⟨-, -, -, hsinks⟩ | ⟨-, hsame⟩
    · rw [hsinks, deliver_getElem?, Option.map_map]
      congr 1
      funext s
      exact afterAll_kind _ s
    · rw [hsame]
  | add | remove | rename => rfl

end

/-- A bus shows the operations that it has been through. -/
structure Shows (id : String) (kinds : List SinkKind) (ops : List Operation) (b : Bus) : Prop where
  session : b.sessionId = speaker id ops
  registered : ∀ i, b.registered.count i = registrations i ops
  sorts : ∀ i : Nat, b.sinks[i]?.map Sink.kind = kinds[i]?
  holds : ∀ (i : Nat) (s : Sink), b.sinks[i]? = some s → s.kind = .memory → s.events = held id i ops

variable {id : String} {kinds : List SinkKind} {ops : List Operation}

theorem Shows.holds_operate {x : WithLog} (h : Shows id kinds ops x.1) (op : Operation) {i : Nat} {s : Sink}
    (hs : (operate x op).1.sinks[i]? = some s) (hk : s.kind = .memory) : s.events = held id i (ops ++ [op]) := by
  rw [held_snoc]
  cases op with
  | clear j =>
    simp only [operate_clear, updateSink, List.getElem?_modify] at hs
    by_cases hij : j = i
    · cases hi : x.1.sinks[i]? with
      | none => simp [hi] at hs
      | some s' =>
        have hs' : s'.clear = s := by simpa [hi, hij] using hs
        simp [Operation.clears, hij, ← hs', Sink.clear]
    · have hs' : x.1.sinks[i]? = some s := by simpa [hij] using hs
      simpa [Operation.clears, copies, hij] using h.holds i s hs' hk
  | emit now name data =>
    have hadmits := x.1.admits_eq now name data
    rw [operate_emit] at hs
    rcases x.1.hear_cases ⟨now, .ofName name, data⟩ with ⟨ha, -, -, hsinks⟩ | ⟨ha, hsame⟩
    · have hrefused : (Operation.emit now name data).isRefused = false := by simpa [ha] using hadmits
      rw [hsinks, deliver_getElem?, h.registered] at hs
      obtain ⟨s', hs', rfl⟩ := Option.map_eq_some_iff.mp hs
      have hk' : s'.kind = .memory := (afterAll_kind _ s').symm.trans hk
      rw [afterAll_events _ s' hk', h.holds i s' hs' hk', event, h.session]
      simp [Operation.clears, copies, hrefused]
    · have hrefused : (Operation.emit now name data).isRefused = true := by simpa [ha] using hadmits
      rw [hsame] at hs
      simp [Operation.clears, copies, hrefused, h.holds i s hs hk]
  | add | remove | rename => simpa [Operation.clears, copies] using h.holds i s hs hk

theorem Shows.operate {x : WithLog} (h : Shows id kinds ops x.1) (op : Operation) :
    Shows id kinds (ops ++ [op]) (operate x op).1 where
  session := by rw [operate_sessionId, speaker_snoc, h.session]
  registered i := by rw [operate_count, registrations_snoc, h.registered]
  sorts i := by rw [operate_kind, h.sorts]
  holds _ _ := h.holds_operate op

theorem shows_operateAll (now : Binary64) (id : String) (kinds : List SinkKind) (ops : List Operation) :
    Shows id kinds ops (operateAll (assembled now id kinds) ops).1 := by
  induction ops using List.reverseRecOn with
  | nil =>
    constructor
    · rfl
    · intro i; rfl
    · intro i
      simp [assembled, operateAll, Function.comp_def]
    · intro i s hs _
      simp only [assembled, operateAll, List.foldl_nil, List.getElem?_map] at hs
      obtain ⟨kind, -, rfl⟩ := Option.map_eq_some_iff.mp hs
      rfl
  | append_singleton ops op ih =>
    rw [operateAll, List.foldl_append]
    exact ih.operate op

/-! ## Other sinks -/

/-- Two buses that differ at most in the sinks at other places. -/
structure AlikeAt (i : Nat) (b b' : Bus) : Prop where
  session : b.sessionId = b'.sessionId
  snapshot : b.snapshot = b'.snapshot
  registered : b.registered = b'.registered
  sink : b.sinks[i]? = b'.sinks[i]?

theorem AlikeAt.operate {i : Nat} {x x' : WithLog} (h : AlikeAt i x.1 x'.1) (op : Operation) :
    AlikeAt i (operate x op).1 (operate x' op).1 := by
  obtain ⟨hsession, hsnapshot, hregistered, hsink⟩ := h
  cases op with
  | add j => exact ⟨hsession, hsnapshot, by simp [operate_add, addSink, hregistered], hsink⟩
  | remove j => exact ⟨hsession, hsnapshot, by simp [operate_remove, removeSink, hregistered], hsink⟩
  | rename id => exact ⟨rfl, hsnapshot, hregistered, hsink⟩
  | clear j => exact ⟨hsession, hsnapshot, hregistered, by simp [operate_clear, updateSink, List.getElem?_modify, hsink]⟩
  | emit now name data =>
    rw [operate_emit, operate_emit]
    unfold hear emit
    rw [hsnapshot]
    cases x'.1.snapshot.update now.seconds (.ofName name) data with
    | error f => exact ⟨hsession, hsnapshot, hregistered, hsink⟩
    | ok snapshot =>
      refine ⟨hsession, rfl, hregistered, ?_⟩
      show (deliver _ x.1.registered x.1.sinks).1[i]? = (deliver _ x'.1.registered x'.1.sinks).1[i]?
      rw [deliver_getElem?, deliver_getElem?, hsession, hregistered, hsink]

theorem AlikeAt.operateAll {i : Nat} (ops : List Operation) : ∀ {x x' : WithLog}, AlikeAt i x.1 x'.1 →
    AlikeAt i (operateAll x ops).1 (operateAll x' ops).1 := by
  induction ops with
  | nil => exact fun h => h
  | cons op ops ih => exact fun h => ih (h.operate op)

/-- **Fan-out.** Whatever operations a bus with some sinks goes through, a sink
that keeps events holds those that were emitted since it was cleared, in order
and once for each of its registrations. A sink that is removed loses all its
registrations, and no other loses one. Other sinks in the place of those around
it make no difference to it, nor to which emissions return. One is refused if
its progress is no number, and then nothing has changed. -/
theorem fan_out (now : Binary64) (id : String) (kinds : List SinkKind) (ops : List Operation) :
    (∀ i : Nat, kinds[i]? = some .memory →
      ∃ s, (operateAll (assembled now id kinds) ops).1.sinks[i]? = some s ∧ s.events = held id i ops) ∧
    (∀ i, (operateAll (assembled now id kinds) ops).1.registered.count i = registrations i ops ∧
      (operateAll (assembled now id kinds) (ops ++ [.remove i])).1.registered =
        (operateAll (assembled now id kinds) ops).1.registered.filter (· != i)) ∧
    (∀ (i : Nat) (others : List SinkKind), others[i]? = kinds[i]? →
      AlikeAt i (operateAll (assembled now id kinds) ops).1 (operateAll (assembled now id others) ops).1) ∧
    ∀ (x : WithLog) (op : Operation), (op.writes.perform x).1.isOk = !op.isRefused ∧
      (op.isRefused = true → operate x op = x) := by
  have hshows := shows_operateAll now id kinds ops
  refine ⟨fun i hi => ?_, fun i => ⟨hshows.registered i, ?_⟩, fun i others hothers => ?_, operate_refused⟩
  · rw [← hshows.sorts i] at hi
    obtain ⟨s, hs, hk⟩ := Option.map_eq_some_iff.mp hi
    exact ⟨s, hs, hshows.holds i s hs hk⟩
  · rw [operateAll, List.foldl_append]
    rfl
  · apply AlikeAt.operateAll
    exact ⟨rfl, rfl, rfl, by simp [assembled, hothers]⟩

private def lunchtime : Moment := .ofSeconds (.ofNat 43200)

/-- Two sinks that keep events, and one that raises, in between and in the front. -/
private def mixed : List SinkKind := [.memory, .failing "RuntimeError" "disk full", .memory]

private def comingAndGoing : List Operation :=
  [.add 1, .add 0, .add 0, .add 2, .emit lunchtime "log" [], .clear 2, .rename "late", .emit lunchtime "step_started" [],
    .remove 0, .emit lunchtime "progress" [("progress", .str "half")], .emit lunchtime "error" []]

private def broken : List SinkKind := [.memory, .failing "RuntimeError" "disk full", .failing "OSError" "closed"]

private def halfway : Operation := .emit lunchtime "progress" [("progress", .str "half")]

theorem fan_out_comingAndGoing : mixed[0]? = some .memory ∧ mixed[2]? = some .memory ∧ broken[0]? = mixed[0]? ∧
    halfway.isRefused = true ∧
    (∃ s, (operateAll (assembled lunchtime.seconds "early" mixed) comingAndGoing).1.sinks[0]? = some s ∧
      s.events.map (fun e => (e.kind, e.sessionId)) =
        [(.log, "early"), (.log, "early"), (.stepStarted, "late"), (.stepStarted, "late")]) ∧
    (∃ s, (operateAll (assembled lunchtime.seconds "early" mixed) comingAndGoing).1.sinks[2]? = some s ∧
      s.events.map (fun e => (e.kind, e.sessionId)) = [(.stepStarted, "late"), (.error, "late")]) ∧
    AlikeAt 0 (operateAll (assembled lunchtime.seconds "early" mixed) comingAndGoing).1
      (operateAll (assembled lunchtime.seconds "early" broken) comingAndGoing).1 ∧
    operate (assembled lunchtime.seconds "early" mixed) halfway = assembled lunchtime.seconds "early" mixed := by
  obtain ⟨hholds, -, halike, hrefused⟩ := fan_out lunchtime.seconds "early" mixed comingAndGoing
  have hhalfway : halfway.isRefused = true := by decide +kernel
  obtain ⟨s, hs, hevents⟩ := hholds 0 rfl
  obtain ⟨s', hs', hevents'⟩ := hholds 2 rfl
  refine ⟨rfl, rfl, rfl, hhalfway, ⟨s, hs, ?_⟩, ⟨s', hs', ?_⟩, halike 0 broken rfl, (hrefused _ halfway).2 hhalfway⟩
  · rw [hevents]
    decide +kernel
  · rw [hevents']
    decide +kernel

end Bus

end BrowserPilot
