import BrowserPilot.Proofs.Monitor.Undisturbed
import BrowserPilot.Rehearsal.Run

/-!
# Runs that go alike

Browsers that do everything alike take a run through the same course, whenever it
begins and whenever the replies come. Two such runs move in step: between any two
moves their monitors are abreast and their scenes are alike, and both come to
their end or wait for a reply that never comes. Browsers that answer every call
alike do everything alike.
-/

namespace BrowserPilot.Rehearsal

variable {W : Type}

/-! ## Scenes and work -/

/-- In what two runs go alike: what their scenes have in common, and whether both
may wait for ever for a reply. -/
structure Likeness (W : Type) where
  scenes : Scene W → Scene W → Prop
  hangs : Prop

/-- Two performances that have come to the same end, each at its time, or to none. -/
structure Performance.Alike {α : Type} (l : Likeness W) (s s' : Scene W) (p p' : Performance α W) : Prop where
  ending : (∃ e e', p.ending = some e ∧ p'.ending = some e' ∧ e.result = e'.result) ∨
    l.hangs ∧ p.ending = none ∧ p'.ending = none
  after : l.scenes (s.after p) (s'.after p')

structure Turn.Alike (l : Likeness W) (u u' : Turn (Scene W)) : Prop where
  ending : (∃ t t' o, u.ending = some (t, o) ∧ u'.ending = some (t', o)) ∨ l.hangs ∧ u.ending = none ∧ u'.ending = none
  after : l.scenes u.after u'.after
  calls : u.calls = [] ∧ u'.calls = []

/-- What a run does with a browser is done alike, whenever it is done. -/
structure Likeness.Holds (l : Likeness W) (respond respond' : Responder W) : Prop where
  perform : ∀ {s s'}, l.scenes s s' → ∀ a t t',
    (s.play respond (Browser.perform a) t).Alike l s s' (s'.play respond' (Browser.perform a) t')
  launch : ∀ {s s'}, l.scenes s s' → ∀ profile t t',
    (s.play respond (Browser.launch (some profile)) t).Alike l s s' (s'.play respond' (Browser.launch (some profile)) t')
  close : ∀ {s s'}, l.scenes s s' → ∀ t t',
    (s.play respond Browser.close t).Alike l s s' (s'.play respond' Browser.close t')
  delay : ∀ {s s'}, l.scenes s s' → ∀ seconds t t',
    l.scenes ((browserTroupe respond).delay t seconds s) ((browserTroupe respond').delay t' seconds s')

theorem Likeness.Holds.turn {l : Likeness W} {respond respond' : Responder W} (ha : l.Holds respond respond')
    {s s' : Scene W} (hs : l.scenes s s') (a : Action) (t t' : Binary64) :
    ((browserTroupe respond).perform t a s).Alike l ((browserTroupe respond').perform t' a s') := by
  obtain ⟨hending, hafter⟩ := ha.perform hs a t t'
  refine ⟨?_, hafter, rfl, rfl⟩
  rcases hending with ⟨e, e', he, he', hresult⟩ | ⟨hhangs, he, he'⟩
  · refine .inl ⟨e.time, e'.time, ?_⟩
    simp only [browserTroupe, turnOf, he, he', Option.map_some, hresult]
    exact ⟨_, rfl, rfl⟩
  · refine .inr ⟨hhangs, ?_⟩
    simp only [browserTroupe, turnOf, he, he', Option.map_none]
    exact ⟨trivial, trivial⟩

/-! ## One stage -/

namespace Stage

section
variable {S : Type} {troupe : Troupe S} {s : Stage S}

theorem advance_over (ho : s.monitor.isOver = true) (n : Nat) : s.advance troupe n = (s, true) := by
  cases n with
  | zero => rw [advance, ho]
  | succ n => rw [advance, if_pos ho]

theorem advance_happen (ho : s.monitor.isOver = false) (hready : s.monitor.isReady = false) {t : Binary64} {c : Coming S}
    (hc : s.coming = some (t, c)) (n : Nat) : s.advance troupe (n + 1) = (s.happen t c).advance troupe n := by
  rw [advance, ho, if_neg Bool.false_ne_true, hc]
  simp only [hready, Bool.false_and, Bool.false_eq_true, if_false]

theorem advance_turn (ho : s.monitor.isOver = false) (hready : s.monitor.isReady = true) (hc : s.coming = none) (n : Nat) :
    s.advance troupe (n + 1) = ((s.tell .turn).takeUpAll troupe).advance troupe n := by
  rw [advance, ho, if_neg Bool.false_ne_true, hc]
  simp only [hready, if_true, turn]

theorem advance_stuck (ho : s.monitor.isOver = false) (hready : s.monitor.isReady = false) (hc : s.coming = none) (n : Nat) :
    s.advance troupe (n + 1) = (s, false) := by
  rw [advance, ho, if_neg Bool.false_ne_true, hc]
  simp only [hready, Bool.false_eq_true, if_false]

/-- All requests have been taken up, and no one calls the monitor any more. -/
structure IsQuiet (s : Stage S) : Prop where
  taken : s.taken = s.monitor.asked.length
  interruptions : s.interruptions = []

theorem IsQuiet.coming_work (h : s.IsQuiet) {u : Turn S} (hrun : s.running = some u) (htimer : s.timer = none) {t : Binary64}
    {o : Outcome} (he : u.ending = some (t, o)) : s.coming = some (t, .workEnd u.after o) := by
  simp only [coming, hrun, htimer, h.interruptions, he, Option.bind_some, Option.map_some, Option.map_none, earlier]

theorem IsQuiet.coming_hang (h : s.IsQuiet) {u : Turn S} (hrun : s.running = some u) (htimer : s.timer = none)
    (he : u.ending = none) : s.coming = none := by
  simp only [coming, hrun, htimer, h.interruptions, he, Option.bind_some, Option.map_none, earlier]

theorem IsQuiet.coming_timer (h : s.IsQuiet) {t : Binary64} (hrun : s.running = none) (htimer : s.timer = some t) :
    s.coming = some (t, .timerEnd) := by
  simp only [coming, hrun, htimer, h.interruptions, Option.bind_none, Option.map_some, earlier]

theorem IsQuiet.coming_none (h : s.IsQuiet) (hrun : s.running = none) (htimer : s.timer = none) : s.coming = none := by
  simp only [coming, hrun, htimer, h.interruptions, Option.bind_none, Option.map_none, earlier]

theorem IsQuiet.takeUpAll (h : s.IsQuiet) {signal : Signal} {rs : List Request}
    (hasked : (s.tell signal).monitor.asked = s.monitor.asked ++ rs) : (s.tell signal).takeUpAll troupe =
      rs.foldl (fun s r => { s with taken := s.taken + 1 }.takeUp troupe r) (s.tell signal) := by
  have hrs : ((s.tell signal).monitor.requests.drop s.taken).map (·.2) = rs := by
    rw [List.map_drop, h.taken]
    exact (congrArg (·.drop s.monitor.asked.length) hasked).trans List.drop_left
  rw [Stage.takeUpAll, ← hrs, List.foldl_map]
  rfl

/-- The fuel of a stage is enough for every attempt at every step. -/
theorem attemptsFrom_le_fuel (s : Stage S) : 4 * s.monitor.plan.attemptsFrom 0 + 2 ≤ s.fuel := by
  have hsum : ∀ (steps : List Step) (k : Nat), steps.foldl (fun n step => n + (step.policy.retries + 1)) k =
      k + (steps.map fun step => 1 + step.policy.retries).sum := by
    intro steps
    induction steps with
    | nil => exact fun k => rfl
    | cons step steps ih =>
      intro k
      rw [List.foldl_cons, ih, List.map_cons, List.sum_cons]
      omega
  rw [fuel, hsum, Plan.attemptsFrom, List.drop_zero]
  omega

end

section
variable {respond : Responder W} {s : Stage (Scene W)}

theorem takeUp_monitor (r : Request) : (s.takeUp (browserTroupe respond) r).monitor = s.monitor := by
  cases r with
  | closeBrowser =>
    simp only [takeUp, cut]
    cases s.running <;> rfl
  | perform | sleep | grace => rfl

theorem takeUpAll_monitor : (s.takeUpAll (browserTroupe respond)).monitor = s.monitor := by
  unfold takeUpAll
  generalize s.monitor.requests.drop s.taken = rs
  induction rs generalizing s with
  | nil => rfl
  | cons r rs ih => exact ih.trans (takeUp_monitor r.2)

theorem happen_workEnd {a : Attempt} (hph : s.monitor.phase = .inFlight a none) (t : Binary64) (after : Scene W)
    (o : Outcome) : s.happen t (.workEnd after o) = { s with
      time := s.time.greatest t, running := none, scene := after
      monitor := { s.monitor with phase := .inFlight a (some o) } } := by
  simp only [happen, hph, tell, Monitor.receive]

theorem happen_timerEnd {a : Attempt} (hph : s.monitor.phase = .backingOff a false) (t : Binary64) :
    s.happen t .timerEnd = { s with
      time := s.time.greatest t, timer := none, monitor := { s.monitor with phase := .backingOff a true } } := by
  simp only [happen, hph, tell, Monitor.receive]

end

/-! ## Two stages -/

/-- Nothing is under way on two stages with like scenes. -/
structure AtRest (l : Likeness W) (s s' : Stage (Scene W)) : Prop where
  running : s.running = none ∧ s'.running = none
  timer : s.timer = none ∧ s'.timer = none
  scene : l.scenes s.scene s'.scene

/-- What is under way on two stages while their monitors are in a phase. -/
inductive Works (l : Likeness W) (s s' : Stage (Scene W)) : Phase → Prop where
  | calling {a : Attempt} {u u' : Turn (Scene W)} (hrun : s.running = some u ∧ s'.running = some u') (h : u.Alike l u')
      (htimer : s.timer = none ∧ s'.timer = none) : Works l s s' (.inFlight a none)
  | called {a : Attempt} {o : Outcome} (h : s.AtRest l s') : Works l s s' (.inFlight a (some o))
  | sleeping {a : Attempt} {t t' : Binary64} (htimer : s.timer = some t ∧ s'.timer = some t')
      (hrun : s.running = none ∧ s'.running = none) (hscene : l.scenes s.scene s'.scene) :
      Works l s s' (.backingOff a false)
  | slept {a : Attempt} (h : s.AtRest l s') : Works l s s' (.backingOff a true)

/-- Two stages on which a run waits and has come to the same. -/
structure Together (p : Plan) (taskName : String) (s s' : Stage (Scene W)) : Prop where
  abreast : s.monitor.Abreast s'.monitor
  phase : s.monitor.phase = s'.monitor.phase
  free : s.monitor.IsFree p taskName
  quiet : s.IsQuiet
  quiet' : s'.IsQuiet

/-- Two stages on which a run has been set up alike. -/
structure ReadyAlike (l : Likeness W) (p : Plan) (taskName : String) (s s' : Stage (Scene W)) : Prop extends
    s.Together p taskName s', s.AtRest l s' where
  ready : s.monitor.phase = .ready

/-- Two stages on which a run has come to the same, or to its end. -/
inductive Alike (l : Likeness W) (p : Plan) (taskName : String) (s s' : Stage (Scene W)) : Prop where
  | waits (h : s.Together p taskName s') (hworks : Works l s s' s.monitor.phase)
  | ended (h : s.monitor.Over s'.monitor) (hdone : s.monitor.IsDone p taskName) (hscene : l.scenes s.scene s'.scene)

/-- Two stages on which a run has gone on until its end, or as far as it gets, and
has come to the same. -/
inductive EndAlike (l : Likeness W) (p : Plan) (taskName : String) : (x x' : Stage (Scene W) × Bool) → Prop where
  | ended {s s' : Stage (Scene W)} (h : s.monitor.Over s'.monitor) (hdone : s.monitor.IsDone p taskName)
      (hscene : l.scenes s.scene s'.scene) : EndAlike l p taskName (s, true) (s', true)
  | stuck {s s' : Stage (Scene W)} (hhangs : l.hangs) (h : s.Together p taskName s')
      (hscene : l.scenes s.stalled s'.stalled) : EndAlike l p taskName (s, false) (s', false)

section
variable {l : Likeness W} {p : Plan} {taskName : String} {s s' : Stage (Scene W)}

theorem Together.inPhase (h : s.Together p taskName s') {ph : Phase}
    (hfree : Monitor.IsFree p taskName { s.monitor with phase := ph }) (t t' : Binary64) (scene scene' : Scene W)
    (running running' : Option (Turn (Scene W))) (timer timer' : Option Binary64) :
    Together p taskName { s with time := t, scene, running, timer, monitor := { s.monitor with phase := ph } }
      { s' with time := t', scene := scene', running := running', timer := timer'
                monitor := { s'.monitor with phase := ph } } :=
  ⟨h.abreast.inPhase ph ph, rfl, hfree, ⟨h.quiet.taken, h.quiet.interruptions⟩, ⟨h.quiet'.taken, h.quiet'.interruptions⟩⟩

theorem Together.isReady (h : s.Together p taskName s') : s'.monitor.isReady = s.monitor.isReady := by
  rw [Monitor.isReady, Monitor.isReady, h.phase, h.abreast.free, h.free.control]

theorem Together.isOver (h : s.Together p taskName s') : s'.monitor.isOver = false := by
  rw [← h.free.isOver, Monitor.isOver, Monitor.isOver, h.phase]

theorem Together.workEnd (h : s.Together p taskName s') {a : Attempt} (hph : s.monitor.phase = .inFlight a none)
    (htimer : s.timer = none ∧ s'.timer = none) {after after' : Scene W} (hafter : l.scenes after after') (o : Outcome)
    (t t' : Binary64) : (s.happen t (.workEnd after o)).Alike l p taskName (s'.happen t' (.workEnd after' o)) := by
  have hmove : s.monitor.receive s.now (.outcome o) = { s.monitor with phase := .inFlight a (some o) } := by
    simp only [Monitor.receive, hph]
  have hfree := h.free.inPhase s.now rfl rfl rfl hmove
  rw [happen_workEnd hph, happen_workEnd (h.phase ▸ hph)]
  exact .waits (h.inPhase hfree ..) (.called ⟨⟨rfl, rfl⟩, htimer, hafter⟩)

theorem Together.timerEnd (h : s.Together p taskName s') {a : Attempt} (hph : s.monitor.phase = .backingOff a false)
    (hrun : s.running = none ∧ s'.running = none) (hscene : l.scenes s.scene s'.scene) (t t' : Binary64) :
    (s.happen t .timerEnd).Alike l p taskName (s'.happen t' .timerEnd) := by
  have hmove : s.monitor.receive s.now .timeUp = { s.monitor with phase := .backingOff a true } := by
    simp only [Monitor.receive, hph]
  have hfree := h.free.inPhase s.now rfl rfl rfl hmove
  rw [happen_timerEnd hph, happen_timerEnd (h.phase ▸ hph)]
  exact .waits (h.inPhase hfree ..) (.slept ⟨hrun, ⟨rfl, rfl⟩, hscene⟩)

theorem endAlike_of_over (h : s.monitor.Over s'.monitor) (hdone : s.monitor.IsDone p taskName)
    (hscene : l.scenes s.scene s'.scene) (troupe troupe' : Troupe (Scene W)) (n n' : Nat) :
    EndAlike l p taskName (s.advance troupe n) (s'.advance troupe' n') := by
  rw [advance_over h.isOver, advance_over h.isOver_right]
  exact .ended h hdone hscene

theorem ReadyAlike.onScene (h : s.ReadyAlike l p taskName s') (t t' : Binary64) {scene scene' : Scene W}
    (hs : l.scenes scene scene') : ReadyAlike l p taskName { s with time := t, scene, interruptions := [] }
      { s' with time := t', scene := scene', interruptions := [] } :=
  ⟨⟨h.abreast, h.phase, h.free, ⟨h.quiet.taken, rfl⟩, ⟨h.quiet'.taken, rfl⟩⟩, ⟨h.running, h.timer, hs⟩, h.ready⟩

variable {respond respond' : Responder W} (ha : l.Holds respond respond')
include ha

/-- **A move that both monitors make**, and what they ask for with it, leave two stages alike. -/
theorem AtRest.move (hrest : s.AtRest l s') (h : s.Together p taskName s') {signal : Signal}
    (ht : (s.tell signal).monitor.Tracks (s'.tell signal).monitor)
    (hc : (s.tell signal).monitor.Comes p taskName s.monitor.asked) :
    Alike l p taskName ((s.tell signal).takeUpAll (browserTroupe respond))
      ((s'.tell signal).takeUpAll (browserTroupe respond')) := by
  have htaken {s : Stage (Scene W)} {r : Request} (hquiet : s.IsQuiet)
      (hone : (s.tell signal).monitor.asked = s.monitor.asked ++ [r]) :
      s.taken + 1 = (s.tell signal).monitor.asked.length := by
    rw [hone, List.length_append, hquiet.taken, List.length_singleton]
  have hasked {rs : List Request} (hagree : (s.tell signal).monitor.asked = (s'.tell signal).monitor.asked)
      (h' : (s.tell signal).monitor.asked = s.monitor.asked ++ rs) :
      (s'.tell signal).monitor.asked = s'.monitor.asked ++ rs := by
    rw [← hagree, h', h.abreast.asked]
  cases hc with
  | ends hdone hnone =>
    have hover := ht.isOver (by rw [Monitor.isOver, hdone.phase])
    have hnone := hnone.trans (List.append_nil _).symm
    rw [h.quiet.takeUpAll hnone, h.quiet'.takeUpAll (hasked hover.asked hnone)]
    exact .ended hover hdone hrest.scene
  | @calls a hfree hphase hone =>
    obtain ⟨habreast, hsame⟩ := hfree.abreast ht
    have hone' := hasked habreast.asked hone
    have hturn := ha.turn hrest.scene a.action s.time s'.time
    rw [h.quiet.takeUpAll hone, h.quiet'.takeUpAll hone']
    refine .waits ⟨habreast, hsame, hfree, ⟨htaken h.quiet hone, h.quiet.interruptions⟩,
      ⟨htaken h.quiet' hone', h.quiet'.interruptions⟩⟩ ?_
    show Works l _ _ (s.tell signal).monitor.phase
    rw [hphase]
    exact .calling ⟨rfl, rfl⟩ hturn ⟨rfl, rfl⟩
  | @sleeps a delay hfree hphase hone =>
    obtain ⟨habreast, hsame⟩ := hfree.abreast ht
    have hone' := hasked habreast.asked hone
    rw [h.quiet.takeUpAll hone, h.quiet'.takeUpAll hone']
    refine .waits ⟨habreast, hsame, hfree, ⟨htaken h.quiet hone, h.quiet.interruptions⟩,
      ⟨htaken h.quiet' hone', h.quiet'.interruptions⟩⟩ ?_
    show Works l _ _ (s.tell signal).monitor.phase
    rw [hphase]
    exact .sleeping ⟨rfl, rfl⟩ hrest.running (ha.delay hrest.scene delay.value s.time s'.time)

/-- **Two stages that are alike go on to the same end.** Each thing that happens
takes one off what is left of the run. -/
theorem Alike.advance (n : Nat) : ∀ {s s' : Stage (Scene W)}, s.Alike l p taskName s' → s.monitor.phase.toGo p ≤ n →
    EndAlike l p taskName (s.advance (browserTroupe respond) n) (s'.advance (browserTroupe respond') n) := by
  induction n with
  | zero =>
    intro s s' h hn
    cases h with
    | ended h hdone hscene => exact endAlike_of_over h hdone hscene ..
    | waits h _ =>
      have hpos := h.free.unstopped.toGo_pos h.free.isOver p
      omega
  | succ n ih =>
    intro s s' h hn
    cases h with
    | ended h hdone hscene => exact endAlike_of_over h hdone hscene ..
    | waits h hworks =>
      have ho := h.free.isOver
      -- with nothing under way both monitors take their turn
      have hturn (hrest : s.AtRest l s') (hready : s.monitor.isReady = true)
          (ht : (s.tell .turn).monitor.Tracks (s'.tell .turn).monitor) : EndAlike l p taskName
            (s.advance (browserTroupe respond) (n + 1)) (s'.advance (browserTroupe respond') (n + 1)) := by
        rw [advance_turn ho hready (h.quiet.coming_none hrest.running.1 hrest.timer.1),
          advance_turn h.isOver (h.isReady.trans hready) (h.quiet'.coming_none hrest.running.2 hrest.timer.2)]
        refine ih (hrest.move ha h ht (h.free.turn_comes s.now hready)) ?_
        have hlt := Monitor.turn_toGo h.free.inv h.free.unstopped hready ho s.now
        rw [takeUpAll_monitor]
        exact Nat.le_of_lt_succ (Nat.lt_of_lt_of_le hlt hn)
      generalize hph : s.monitor.phase = ph at hworks hn
      cases hworks with
      | @calling a u u' hrun hu htimer =>
        have hstill : s.monitor.isReady = false := by simp [Monitor.isReady, hph, h.free.control]
        rcases hu.ending with ⟨t, t', o, he, he'⟩ | ⟨hhangs, he, he'⟩
        · rw [advance_happen ho hstill (h.quiet.coming_work hrun.1 htimer.1 he),
            advance_happen h.isOver (h.isReady.trans hstill) (h.quiet'.coming_work hrun.2 htimer.2 he')]
          refine ih (h.workEnd hph htimer hu.after o t t') ?_
          rw [happen_workEnd hph]
          exact Nat.le_of_succ_le_succ hn
        · rw [advance_stuck ho hstill (h.quiet.coming_hang hrun.1 htimer.1 he),
            advance_stuck h.isOver (h.isReady.trans hstill) (h.quiet'.coming_hang hrun.2 htimer.2 he')]
          refine .stuck hhangs h ?_
          rw [stalled, stalled, hrun.1, hrun.2]
          exact hu.after
      | @called a o hrest =>
        refine hturn hrest (by simp [Monitor.isReady, hph]) ?_
        simp only [tell, Monitor.receive, Monitor.takeTurn, ← h.phase, hph]
        exact h.abreast.settleAttempt a o
      | @sleeping a t t' htimer hrun hscene =>
        have hstill : s.monitor.isReady = false := by simp [Monitor.isReady, hph, h.free.control]
        rw [advance_happen ho hstill (h.quiet.coming_timer hrun.1 htimer.1),
          advance_happen h.isOver (h.isReady.trans hstill) (h.quiet'.coming_timer hrun.2 htimer.2)]
        refine ih (h.timerEnd hph hrun hscene t t') ?_
        rw [happen_timerEnd hph]
        exact Nat.le_of_succ_le_succ hn
      | @slept a hrest =>
        refine hturn hrest (by simp [Monitor.isReady, hph]) ?_
        simp only [tell, Monitor.receive, Monitor.takeTurn, ← h.phase, hph, Bool.true_or, if_true]
        exact h.abreast.leaveBackoff a

theorem Alike.settles (h : s.Alike l p taskName s') (hgo : s.monitor.phase.toGo p ≤ 4 * p.attemptsFrom 0 + 2) :
    EndAlike l p taskName (s.advance (browserTroupe respond) s.fuel) (s'.advance (browserTroupe respond') s'.fuel) := by
  cases id h with
  | ended hover hdone hscene => exact endAlike_of_over hover hdone hscene ..
  | waits htogether _ =>
    have hfuel : s.fuel = s'.fuel := by
      rw [fuel, fuel, htogether.abreast.plan, htogether.quiet.interruptions, htogether.quiet'.interruptions]
    have henough := s.attemptsFrom_le_fuel
    rw [htogether.free.reached.plan] at henough
    rw [← hfuel]
    exact h.advance ha s.fuel (hgo.trans henough)

theorem ReadyAlike.command (h : s.ReadyAlike l p taskName s') (c : Command) :
    EndAlike l p taskName (s.command (browserTroupe respond) c) (s'.command (browserTroupe respond') c) := by
  have hready' : s'.monitor.phase = .ready := h.phase.symm.trans h.ready
  have hopen := h.free.isFinished h.ready
  have hopen' : s'.monitor.isFinished = false := h.abreast.isFinished.symm.trans hopen
  cases c with
  | run =>
    have ht : (s.tell .start).monitor.Tracks (s'.tell .start).monitor := by
      simp only [tell, Monitor.receive, h.ready, hready', hopen, hopen', Bool.false_eq_true, if_false]
      exact h.abreast.start
    have hgo := Monitor.start_toGo h.free.inv h.ready rfl s.now
    rw [h.ready, Phase.toGo] at hgo
    refine (h.toAtRest.move ha h.toTogether ht (h.free.start_comes s.now h.ready)).settles ha ?_
    rw [takeUpAll_monitor]
    exact Nat.le_of_lt hgo
  | fail reason =>
    have htell : (s.tell (.fail reason)).monitor = s.monitor.failSession s.now reason := by
      simp only [tell, Monitor.receive, h.ready, hopen, Bool.false_eq_true, if_false]
    have htell' : (s'.tell (.fail reason)).monitor = s'.monitor.failSession s'.now reason := by
      simp only [tell, Monitor.receive, hready', hopen', Bool.false_eq_true, if_false]
    obtain ⟨hdone, hasked⟩ := h.free.failSession_done s.now h.ready reason
    have ht : (s.tell (.fail reason)).monitor.Tracks (s'.tell (.fail reason)).monitor := by
      rw [htell, htell']
      exact .ended (h.abreast.failSession reason)
    refine (h.toAtRest.move ha h.toTogether ht ?_).settles ha ?_
    · rw [htell]
      exact .ends hdone hasked
    · rw [takeUpAll_monitor, htell, hdone.phase]
      exact Nat.zero_le _

end

end Stage

/-! ## Runs -/

/-- Two runs that have come to their end, and to the same. -/
structure RunReport.Alike (p : Plan) (taskName : String) (r r' : RunReport W) : Prop where
  monitor : r.monitor.Over r'.monitor
  done : r.monitor.IsDone p taskName
  ended : r.ended.isSome = true ∧ r'.ended.isSome = true

/-- Two runs that have gone alike, to their end or as far as they get. -/
inductive RunReport.Agree (l : Likeness W) (p : Plan) (taskName : String) (r r' : RunReport W) : Prop where
  | ended (h : r.Alike p taskName r') (hscene : l.scenes r.scene r'.scene)
  | stuck (hhangs : l.hangs) (hmonitor : r.monitor.Agree r'.monitor) (hphase : r.monitor.phase = r'.monitor.phase)
      (hscene : l.scenes r.scene r'.scene) (hended : r.ended = none ∧ r'.ended = none)

section
variable {l : Likeness W} {respond respond' : Responder W} (ha : l.Holds respond respond') {p : Plan}
  {taskName : String} {s s' : Stage (Scene W)} (h : s.ReadyAlike l p taskName s')
include ha h

theorem playOut_agree (c : Command) : (playOut respond c s).Agree l p taskName (playOut respond' c s') := by
  have hend := h.command ha c
  unfold playOut
  generalize s.command (browserTroupe respond) c = x at hend
  generalize s'.command (browserTroupe respond') c = x' at hend
  cases hend with
  | @stuck u u' hhangs htogether hscene =>
    exact .stuck hhangs htogether.abreast.toAgree htogether.phase hscene ⟨rfl, rfl⟩
  | @ended u u' hover hdone hscene =>
    obtain ⟨hending, hafter⟩ := ha.close hscene u.time u'.time
    rcases hending with ⟨e, e', he, he', _⟩ | ⟨hhangs, he, he'⟩
    · refine .ended ⟨hover, hdone, ?_⟩ hafter
      simp only [he, he', Option.map_some]
      exact ⟨rfl, rfl⟩
    · refine .stuck hhangs hover.toAgree hover.phase hafter ?_
      simp only [he, he', Option.map_none]
      exact ⟨trivial, trivial⟩

/-- **Two runs that go alike come to the same.** -/
theorem playRun_agree (profile : Profile) :
    (playRun respond profile s).Agree l p taskName (playRun respond' profile s') := by
  have hbefore : ∀ t, interruptionsBefore t [] = ([], []) := fun t => by cases t <;> rfl
  obtain ⟨hending, hscene⟩ := ha.launch h.scene profile s.time s'.time
  unfold playRun
  simp only [h.quiet.interruptions, h.quiet'.interruptions, hbefore, List.foldl_nil]
  rcases hending with ⟨e, e', he, he', hresult⟩ | ⟨hhangs, he, he'⟩
  · simp only [he, he', ← hresult]
    cases e.result with
    | ok profile => exact playOut_agree ha (h.onScene e.time e'.time hscene) .run
    | error f =>
      obtain ⟨_, hclosed⟩ := ha.close hscene e.time e'.time
      exact playOut_agree ha (h.onScene e.time e'.time hclosed) _
  · simp only [he, he']
    exact .stuck hhangs h.abreast.toAgree h.phase hscene ⟨rfl, rfl⟩

end

/-! ## Calls that are answered alike -/

/-- Every call is answered by both, alike and whatever the time is. -/
structure AnswerAlike (respond respond' : Responder W) : Prop where
  answers : ∀ t c w, (respond t c w).comes.isSome = true
  answers' : ∀ t c w, (respond' t c w).comes.isSome = true
  reply : ∀ t t' c w, (respond t c w).reply = (respond' t' c w).reply
  world : ∀ t t' c w, (respond t c w).world = (respond' t' c w).world

/-- Two scenes that are the same but for the calls noted. -/
structure Scene.Same (s s' : Scene W) : Prop where
  browser : s.browser = s'.browser
  world : s.world = s'.world

/-- Scenes are the same but for the calls noted, and no reply is waited for in vain. -/
def Likeness.answered : Likeness W := ⟨Scene.Same, False⟩

section
variable {respond respond' : Responder W} (ha : AnswerAlike respond respond')
include ha

theorem play_alike {α : Type} (x : Program α) : ∀ (t t' : Binary64) (w : W), ∃ u u' result b v,
    (play respond x t w).ending = some ⟨u, result, b, v⟩ ∧ (play respond' x t' w).ending = some ⟨u', result, b, v⟩ := by
  induction x with
  | done b result => exact fun t t' w => ⟨t, t', result, b, w, rfl, rfl⟩
  | ask b c next ih =>
    intro t t' w
    obtain ⟨u, hu⟩ := Option.isSome_iff_exists.mp (ha.answers t c w)
    obtain ⟨u', hu'⟩ := Option.isSome_iff_exists.mp (ha.answers' t' c w)
    obtain ⟨v, v', result, b', w', he, he'⟩ := ih (respond t c w).reply u u' (respond t c w).world
    rw [ha.reply t t' c w, ha.world t t' c w] at he'
    refine ⟨v, v', result, b', w', ?_, ?_⟩
    · simp only [play, hu, he]
    · simp only [play, hu', he']

theorem Scene.Same.play {α : Type} {s s' : Scene W} (hs : s.Same s') (work : Work α) (t t' : Binary64) :
    (s.play respond work t).Alike .answered s s' (s'.play respond' work t') := by
  unfold Scene.play
  rw [hs.browser, hs.world]
  obtain ⟨u, u', result, b, w, he, he'⟩ := play_alike ha (work s'.browser) t t' s'.world
  refine ⟨.inl ⟨_, _, he, he', rfl⟩, ?_⟩
  simp only [Scene.after, he, he']
  exact ⟨rfl, rfl⟩

theorem AnswerAlike.holds : Likeness.answered.Holds respond respond' where
  perform hs _ := hs.play ha _
  launch hs _ := hs.play ha _
  close hs := hs.play ha _
  delay hs _ _ _ := ⟨hs.browser, hs.world⟩

/-- **Two runs that are answered alike come to the same.** -/
theorem playRun_alike {p : Plan} {taskName : String} {s s' : Stage (Scene W)} (h : s.ReadyAlike .answered p taskName s')
    (profile : Profile) : (playRun respond profile s).Alike p taskName (playRun respond' profile s') := by
  cases playRun_agree ha.holds h profile with
  | ended h _ => exact h
  | stuck hhangs => exact hhangs.elim

end

end BrowserPilot.Rehearsal
