import BrowserPilot.Proofs.Monitor.Failing
import BrowserPilot.Proofs.Monitor.Timeline
import BrowserPilot.Proofs.Monitor.Transparent

/-!
# Runs left to themselves

A run that no one pauses or stops calls a primitive or waits for a delay after
each of its moves, until it is over. It asks for just that with the move.
-/

namespace BrowserPilot.Monitor

/-! ## What a move asks for -/

/-- A move that waits asks for what it waits for, and nothing else; one that
leaves the step loop asks for nothing. -/
inductive Asks (asked : List Request) (r : Except Halt (Monitor × Next)) : Prop where
  | calls {a : Attempt} (hq : ¬Quits r) (hphase : (leftBy r).phase = .inFlight a none)
      (h : (leftBy r).asked = asked ++ [.perform a.action])
  | sleeps {a : Attempt} {delay : Amount} (hq : ¬Quits r) (hphase : (leftBy r).phase = .backingOff a false)
      (h : (leftBy r).asked = asked ++ [.sleep delay])
  | leaves (hq : Quits r) (h : (leftBy r).asked = asked)

section
variable {m : Monitor} {now : Moment} {step : Step} {post : List Step} {done : List StepStatus} {st : StepStatus}

theorem asks_attempting (now : Moment) (step : Step) (number : Nat) (done : List StepStatus) (st : StepStatus)
    (rest : List StepStatus) (m : Monitor) : Asks m.asked (.ok (m.attempting now step number done st rest, .wait)) :=
  .calls id rfl (List.map_append ..)

section
variable (hfree : m.control = {})
include hfree

theorem Enters.asks {r : Monitor × Next} (h : Enters now m done post r) : Asks m.asked (.ok r) := by
  cases h with
  | past => exact .leaves trivial rfl
  | stopped hst => simp [hfree] at hst
  | paused _ hpa => simp [hfree] at hpa
  | begun _ _ => exact asks_attempting ..

theorem Advances.asks {r : Monitor × Next} (h : Advances now m post done st r) : Asks m.asked (.ok r) :=
  h.enters.asks (m := m.settling now done st (post.map StepStatus.ofStep)) hfree

theorem GivesUp.asks {r : Monitor × Next} (h : GivesUp now m post done st r) : Asks m.asked (.ok r) := by
  cases h with
  | aborts _ => exact .leaves trivial rfl
  | goesOn _ h => exact h.asks hfree

theorem Fails.asks {a : Attempt} {e : StepFault} {r : Except Halt (Monitor × Next)}
    (h : Fails now m a step post done st e r) : Asks m.asked r := by
  cases h with
  | skipped _ h => exact h.asks hfree
  | retrying _ _ _ _ => exact .sleeps id rfl (List.map_append ..)
  | undelayed _ _ _ _ => exact .leaves trivial rfl
  | exhausted _ _ h => exact h.asks (m := m.failing done st (post.map StepStatus.ofStep) a e) hfree

/-- **Every turn of a run left to itself** asks for what the run waits for then. -/
theorem Turns.asks {r : Except Halt (Monitor × Next)} (h : Turns now m r) (hready : m.isReady = true)
    (hway : m.phase.isUnderWay = true) : Asks m.asked r := by
  cases h with
  | idle h => exact absurd (hready.symm.trans h) nofun
  | unparked hph _ | resumed hph _ _ _ | resumedPast hph _ _ | cancelled hph _ _ => cases hph ▸ hway
  | passed _ _ _ _ h => exact h.asks hfree
  | unstored _ _ _ _ | lost _ _ _ => exact .leaves trivial rfl
  | failed _ _ _ _ h => exact h.asks hfree
  | graced _ hst _ _ | deserted _ hst _ _ _ => simp [hfree] at hst
  | retried _ _ _ _ => exact asks_attempting ..

end

end

/-! ## Runs -/

structure IsFree (p : Plan) (taskName : String) (m : Monitor) : Prop where
  reached : m.Reached p
  control : m.control = {}
  way : m.phase.isUnderWay = true
  taskName : m.session.taskName = taskName

structure IsDone (p : Plan) (taskName : String) (m : Monitor) : Prop where
  phase : m.phase = .finished
  isOver : m.session.IsOver p false
  taskName : m.session.taskName = taskName

/-- What a move of a run left to itself has come to, when the run had asked for so much before. -/
inductive Comes (p : Plan) (taskName : String) (asked : List Request) (m : Monitor) : Prop where
  | calls {a : Attempt} (h : m.IsFree p taskName) (hphase : m.phase = .inFlight a none)
      (hasked : m.asked = asked ++ [.perform a.action])
  | sleeps {a : Attempt} {delay : Amount} (h : m.IsFree p taskName) (hphase : m.phase = .backingOff a false)
      (hasked : m.asked = asked ++ [.sleep delay])
  | ends (h : m.IsDone p taskName) (hasked : m.asked = asked)

section
variable {m : Monitor} {p : Plan} {taskName : String}

theorem IsFree.isOver (h : m.IsFree p taskName) : m.isOver = false := by
  cases hph : m.phase with
  | finished | raised f => cases hph ▸ h.way
  | _ => simp [Monitor.isOver, hph]

theorem IsFree.unfinished (h : m.IsFree p taskName) : m.phase ≠ .finished := fun hph => nomatch hph ▸ h.way

theorem IsFree.inv (h : m.IsFree p taskName) : m.Inv p {} := h.control ▸ h.reached.inv h.unfinished

theorem IsFree.unstopped (h : m.IsFree p taskName) : m.Unstopped :=
  ⟨Phase.isUnstopped_of_isUnderWay h.way, fun _ => by rw [h.control]⟩

theorem IsFree.abreast {m' : Monitor} (h : m.IsFree p taskName) (ht : m.Tracks m') : m.Abreast m' ∧ m.phase = m'.phase := by
  cases ht with
  | abreast habreast hphase _ => exact ⟨habreast, hphase⟩
  | held hphase _ _ _ _ => cases hphase ▸ h.way
  | ended hover => exact absurd (h.isOver.symm.trans hover.isOver) nofun

variable (h : m.IsFree p taskName) (now : Moment)
include h

theorem IsFree.receive {s : Signal} (hs : s.isOfRun = true) (hc : Control.after s {} = {})
    (hway : (m.receive now s).phase.isUnderWay = true) : (m.receive now s).IsFree p taskName :=
  ⟨h.reached.receive now hs, (receive_fixed (fun _ => h.inv) h.reached.plan h.control now hs).2.trans hc, hway,
    (receive_passes h.reached.inv now hs).taskName.trans h.taskName⟩

theorem IsFree.inPhase {ph : Phase} {s : Signal} (hs : s.isOfRun = true) (hc : Control.after s {} = {})
    (hway : ph.isUnderWay = true) (hr : m.receive now s = { m with phase := ph }) :
    IsFree p taskName { m with phase := ph } :=
  hr ▸ h.receive now hs hc (by rw [hr]; exact hway)

theorem IsFree.comes {s : Signal} {r : Except Halt (Monitor × Next)} (hs : s.isOfRun = true) (hc : Control.after s {} = {})
    (hr : m.receive now s = afterMove now r) (hl : Lands p {} r) (ha : Asks m.asked r) :
    (m.receive now s).Comes p taskName m.asked := by
  have hleft : ¬Quits r → m.receive now s = leftBy r := fun hq => hr.trans (afterMove_waits now hq)
  cases ha with
  | calls hq hphase hasked =>
    rw [← hleft hq] at hphase hasked
    exact .calls (h.receive now hs hc (by rw [hphase]; rfl)) hphase hasked
  | sleeps hq hphase hasked =>
    rw [← hleft hq] at hphase hasked
    exact .sleeps (h.receive now hs hc (by rw [hphase]; rfl)) hphase hasked
  | leaves hq hasked =>
    obtain ⟨hphase, hreq⟩ := afterMove_quits now hl hq
    rw [← hr] at hphase hreq
    have hover := (receive_inv now h.inv h.unfinished hs).phase
    rw [hphase, hc] at hover
    refine .ends ⟨hphase, hover, (receive_passes h.reached.inv now hs).taskName.trans h.taskName⟩ ?_
    rw [asked, hreq, ← hasked]
    simp [asked]

theorem IsFree.turn_comes (hready : m.isReady = true) : (m.receive now .turn).Comes p taskName m.asked :=
  h.comes now rfl rfl rfl (takeTurn_lands h.inv now) ((takeTurn_turns h.inv now).asks h.control hready h.way)

variable (hready : m.phase = .ready)
include hready

theorem IsFree.start_comes : (m.receive now .start).Comes p taskName m.asked := by
  obtain ⟨data, r, hstart, _, he, hl⟩ := start_enters h.inv hready now
  exact h.comes now rfl rfl hstart hl (he.asks (m := m.emit now .sessionStarted data) h.control)

theorem IsFree.isFinished : m.isFinished = false := by
  have hph := h.inv.phase
  rw [hready] at hph
  exact hph.1

theorem IsFree.failSession_done (reason : String) :
    (m.failSession now reason).IsDone p taskName ∧ (m.failSession now reason).asked = m.asked := by
  have hph := h.inv.phase
  rw [hready] at hph
  have hcut : (m.emit now .error [("error", .str reason)]).session.Cut [] p.steps [] (p.steps.map .ofStep) := hph.2.2
  have hwound := (winding_passes hcut now reason).trans (ending_passes (hcut.winding now reason) now)
  obtain ⟨hover, hphase, hreq, _⟩ := failSession_effect now reason h.inv hready
  refine ⟨⟨hphase, hover, ?_⟩, ?_⟩
  · rw [failSession, failRemaining_finish now reason hcut]
    exact hwound.taskName.trans h.taskName
  · rw [asked, hreq]
    simp [asked]

end

end BrowserPilot.Monitor
