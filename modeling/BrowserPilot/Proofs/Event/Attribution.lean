import BrowserPilot.Monitor.Broadcast
import BrowserPilot.Monitor.Signal

/-!
# In whose name a bus speaks

Monitors may share a bus, be it one after the other or all at once. A bus
without a session takes that of the first monitor which is put on it, and
what any of them tells is told in the name of that one.
-/

namespace BrowserPilot

/-! ## Orders -/

/-- The orders in which the elements of some lists can come, each list in its own. -/
inductive Interleaves {α : Type} : List (List α) → List α → Prop where
  | done {ls : List (List α)} (h : ∀ l ∈ ls, l = []) : Interleaves ls []
  | next {ls : List (List α)} {i : Nat} {x : α} {l xs : List α} (hi : ls[i]? = some (x :: l))
    (h : Interleaves (ls.set i l) xs) : Interleaves ls (x :: xs)

namespace Interleaves

variable {α : Type}

theorem behind (ls : List (List α)) : ∀ used : List (List α), (∀ l ∈ used, l = []) →
    Interleaves (used ++ ls) ls.flatten := by
  induction ls with
  | nil => exact fun used h => .done (by simpa using h)
  | cons l ls ih =>
    intro used h
    induction l with
    | nil =>
      have hrest := ih (used ++ [[]]) fun l hl => by
        rcases List.mem_append.mp hl with hl | hl
        · exact h l hl
        · exact List.mem_singleton.mp hl
      simpa using hrest
    | cons x l ihl => exact .next (i := used.length) (l := l) (by simp) (by simpa using ihl)

theorem flatten (ls : List (List α)) : Interleaves ls ls.flatten := behind ls [] nofun

end Interleaves

/-! ## What sinks take -/

def Sink.afterAll (s : Sink) (events : List Event) : Sink := events.foldl (fun s e => (s.handle e).1) s

theorem Sink.afterAll_append (s : Sink) (events later : List Event) :
    s.afterAll (events ++ later) = (s.afterAll events).afterAll later := List.foldl_append

namespace Bus

theorem deliver_getElem? (e : Event) (i : Nat) (places : List Nat) : ∀ sinks : List Sink,
    (deliver e places sinks).1[i]? = (sinks[i]?).map (·.afterAll (List.replicate (places.count i) e)) := by
  induction places with
  | nil => exact fun sinks => Option.map_id'.symm
  | cons j places ih =>
    intro sinks
    rw [deliver, List.count_cons]
    by_cases hij : j = i
    · subst hij
      cases hj : sinks[j]? with
      | none => simp [ih, hj]
      | some s =>
        obtain ⟨hlt, -⟩ := List.getElem?_eq_some_iff.mp hj
        simp [ih, hlt, List.replicate_succ, Sink.afterAll]
    · cases hj : sinks[j]? with
      | none => simp [ih, hij]
      | some s => simp [ih, hij]

/-! ## Uses of a bus -/

inductive Use where
  | attach (m : Monitor)
  | tell (id : String) (e : Emission)

def after (b : Bus) : Use → Bus
  | .attach m => b.attach m
  | .tell _ e => b.hear e

def afterAll (b : Bus) (uses : List Use) : Bus := uses.foldl after b

def event (b : Bus) (e : Emission) : Event := ⟨e.kind, e.at_.wall.withOffset, b.sessionId, e.data⟩

def admits (b : Bus) (e : Emission) : Bool := (b.snapshot.update e.at_.seconds e.kind e.data).isOk

/-- The events that a bus hands to its sinks, each with the session of the monitor that tells it. -/
def handed (b : Bus) : List Use → List (String × Event)
  | [] => []
  | .attach m :: uses => (b.attach m).handed uses
  | .tell id e :: uses => if b.admits e then (id, b.event e) :: (b.hear e).handed uses else (b.hear e).handed uses

theorem hear_cases (b : Bus) (e : Emission) :
    (b.admits e = true ∧ (b.hear e).sessionId = b.sessionId ∧ (b.hear e).registered = b.registered ∧
        (b.hear e).sinks = (deliver (b.event e) b.registered b.sinks).1) ∨
      (b.admits e = false ∧ b.hear e = b) := by
  unfold admits hear emit
  cases b.snapshot.update e.at_.seconds e.kind e.data with
  | ok snapshot => exact .inl ⟨rfl, rfl, rfl, rfl⟩
  | error f => exact .inr ⟨rfl, rfl⟩

theorem hear_sessionId (b : Bus) (e : Emission) : (b.hear e).sessionId = b.sessionId := by
  rcases b.hear_cases e with ⟨_, h, _, _⟩ | ⟨_, h⟩
  · exact h
  · rw [h]

theorem attach_sinks (b : Bus) (m : Monitor) :
    (b.attach m).sinks = b.sinks ∧ (b.attach m).registered = b.registered := by
  unfold attach
  split <;> exact ⟨rfl, rfl⟩

theorem attach_claimed {b : Bus} (h : b.sessionId ≠ "") (m : Monitor) : b.attach m = b := by
  rw [attach, if_neg]
  simpa using h

theorem afterAll_sinks (i : Nat) (uses : List Use) : ∀ b : Bus, (b.afterAll uses).sinks[i]? =
    (b.sinks[i]?).map fun s => s.afterAll ((b.handed uses).flatMap fun x => List.replicate (b.registered.count i) x.2) := by
  induction uses with
  | nil => exact fun b => Option.map_id'.symm
  | cons u uses ih =>
    intro b
    show ((b.after u).afterAll uses).sinks[i]? = _
    rw [ih]
    cases u with
    | attach m =>
      rw [after, handed]
      obtain ⟨hsinks, hregistered⟩ := b.attach_sinks m
      rw [hsinks, hregistered]
    | tell id e =>
      rw [after, handed]
      rcases b.hear_cases e with ⟨ha, _, hregistered, hsinks⟩ | ⟨ha, h⟩
      · rw [hregistered, hsinks, deliver_getElem?, Option.map_map, if_pos ha, List.flatMap_cons]
        congr 1
        funext s
        exact (s.afterAll_append _ _).symm
      · rw [h, ha]
        rfl

/-! ## Shared buses -/

/-- A bus that has a session keeps it, and speaks in its name. -/
theorem handed_claimed (uses : List Use) : ∀ {b : Bus}, b.sessionId ≠ "" →
    (b.afterAll uses).sessionId = b.sessionId ∧ ∀ x ∈ b.handed uses, x.2.sessionId = b.sessionId := by
  induction uses with
  | nil => exact fun _ => ⟨rfl, nofun⟩
  | cons u uses ih =>
    intro b hb
    cases u with
    | attach m =>
      show ((b.attach m).afterAll uses).sessionId = _ ∧ ∀ x ∈ (b.attach m).handed uses, _
      rw [attach_claimed hb]
      exact ih hb
    | tell id e =>
      have hnext := ih (b := b.hear e) (by rwa [hear_sessionId])
      rw [hear_sessionId] at hnext
      refine ⟨hnext.1, fun x hx => ?_⟩
      rw [handed] at hx
      split at hx
      · rcases List.mem_cons.mp hx with rfl | hx
        · rfl
        · exact hnext.2 x hx
      · exact hnext.2 x hx

end Bus

/-- What a monitor does with its bus: it is put on it and tells what it has to tell. -/
def Monitor.uses (m : Monitor) : List Bus.Use := .attach m :: m.events.map (.tell m.session.id)

namespace Bus

theorem afterAll_uses (b : Bus) (m : Monitor) : b.afterAll m.uses = b.hearAll m := List.foldl_map

theorem afterAll_flatten (monitors : List Monitor) : ∀ b : Bus,
    b.afterAll (monitors.map Monitor.uses).flatten = monitors.foldl (fun b m => b.hearAll m) b := by
  induction monitors with
  | nil => exact fun _ => rfl
  | cons m monitors ih =>
    intro b
    rw [List.map_cons, List.flatten_cons, List.foldl_cons, ← ih, ← afterAll_uses]
    exact List.foldl_append

/-- **A shared bus speaks in the name of its first monitor.** Whatever the order in
which monitors are put on a bus without a session and tell it their events, all
of them are handed to the sinks as events of one session. So those of a monitor
are told as its own exactly if it has that session, or has nothing to tell. -/
theorem shared_speaks_for_first {b : Bus} {monitors : List Monitor} {uses : List Use} (hb : b.sessionId = "")
    (hid : ∀ m ∈ monitors, m.session.id ≠ "") (hne : monitors ≠ [])
    (huses : Interleaves (monitors.map Monitor.uses) uses) :
    ∃ first ∈ monitors, uses.head? = some (.attach first) ∧
      (b.afterAll uses).sessionId = first.session.id ∧
        (∀ x ∈ b.handed uses, x.2.sessionId = first.session.id) ∧
          (∀ m ∈ monitors, (∀ x ∈ b.handed uses, x.1 = m.session.id → x.2.sessionId = m.session.id) ↔
            m.session.id = first.session.id ∨ ∀ x ∈ b.handed uses, x.1 ≠ m.session.id) ∧
            (∀ i : Nat, (b.afterAll uses).sinks[i]? = (b.sinks[i]?).map fun s =>
              s.afterAll ((b.handed uses).flatMap fun x => List.replicate (b.registered.count i) x.2)) ∧
              Interleaves (monitors.map Monitor.uses) (monitors.map Monitor.uses).flatten ∧
                b.afterAll (monitors.map Monitor.uses).flatten = monitors.foldl (fun b m => b.hearAll m) b := by
  cases huses with
  | done h =>
    obtain ⟨m, hm⟩ := List.exists_mem_of_ne_nil monitors hne
    cases h m.uses (List.mem_map_of_mem hm)
  | @next _ i u l uses hi h =>
    obtain ⟨first, hfirst, hu⟩ := List.mem_map.mp (List.mem_of_getElem? hi)
    obtain ⟨rfl, -⟩ := List.cons_eq_cons.mp hu
    have hclaim : (b.attach first).sessionId = first.session.id := by
      rw [attach, hb]
      rfl
    obtain ⟨hsession, hnames⟩ := handed_claimed uses (b := b.attach first) (hclaim ▸ hid first hfirst)
    rw [hclaim] at hsession hnames
    refine ⟨first, hfirst, rfl, hsession, hnames, fun m _ => ⟨fun hown => ?_, ?_⟩, fun i => afterAll_sinks i _ b,
      .flatten _, afterAll_flatten monitors b⟩
    · by_cases hm : m.session.id = first.session.id
      · exact .inl hm
      · exact .inr fun x hx hxm => hm ((hown x hx hxm).symm.trans (hnames x hx))
    · rintro (hm | hsilent) x hx hxm
      · exact (hnames x hx).trans hm.symm
      · exact absurd hxm (hsilent x hx)

private def evening : Moment := .ofSeconds (.ofNat 64800)

private def idleRun (id : String) : Monitor :=
  ({ plan := ⟨[], fun _ _ => .ok (.part (.ofNat 1)), true, .part (.ofNat 5)⟩,
     session := .ofSteps evening.wall id "idle" [] } : Monitor).receiveAll [(evening, .start)]

private def listening : Bus := { start evening.seconds "" with sinks := [{ kind := .memory }], registered := [0] }

/-- Two monitors are put on a bus before either of them runs. -/
private def sideBySide : List Use :=
  .attach (idleRun "one") :: .attach (idleRun "two") :: ((idleRun "one").uses.tail ++ (idleRun "two").uses.tail)

theorem shared_speaks_for_first_sideBySide : listening.sessionId = "" ∧
    (∀ m ∈ [idleRun "one", idleRun "two"], m.session.id ≠ "") ∧
      Interleaves ([idleRun "one", idleRun "two"].map Monitor.uses) sideBySide ∧
        (listening.afterAll sideBySide).sessionId = "one" ∧ ∀ x ∈ listening.handed sideBySide, x.2.sessionId = "one" := by
  have hid : ∀ m ∈ [idleRun "one", idleRun "two"], m.session.id ≠ "" := by decide +kernel
  have huses : Interleaves ([idleRun "one", idleRun "two"].map Monitor.uses) sideBySide := by
    have hrest := Interleaves.flatten [(idleRun "one").uses.tail, (idleRun "two").uses.tail]
    rw [List.flatten_cons, List.flatten_singleton] at hrest
    exact .next (i := 0) rfl (.next (i := 1) rfl hrest)
  obtain ⟨first, _, hhead, hsession, hnames, _⟩ := shared_speaks_for_first (b := listening) rfl hid nofun huses
  obtain rfl : idleRun "one" = first := by injection Option.some_inj.mp hhead
  exact ⟨rfl, hid, huses, hsession, hnames⟩

/-- Two runs, one after the other. The events of the second are told as those of the first. -/
theorem second_run_misattributed : listening.sessionId = "" ∧
    (idleRun "one").session.id = "one" ∧ (idleRun "two").session.id = "two" ∧ (idleRun "two").events.length = 2 ∧
      ((listening.hearAll (idleRun "one")).hearAll (idleRun "two")).sinks.map (fun s => s.events.map (·.sessionId)) =
        [["one", "one", "one", "one"]] := by
  decide +kernel

end Bus

end BrowserPilot
