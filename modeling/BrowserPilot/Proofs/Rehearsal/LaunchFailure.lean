import BrowserPilot.Proofs.Browser.Lifecycle
import BrowserPilot.Proofs.Monitor.Failing
import BrowserPilot.Proofs.Script.Compiled
import BrowserPilot.Proofs.Settings.Valid
import BrowserPilot.Rehearsal.Run

/-!
# Browsers that cannot be started

A script whose browser cannot be started still gives a session. No primitive
is called, every step is failed with the reason, and the session is failed
unless it has no steps.
-/

namespace BrowserPilot

def Control.applyAll (calls : List (Binary64 × ControlCall)) (c : Control) : Control :=
  calls.foldl (fun c x => c.apply x.2) c

theorem Control.applyAll_stopped (calls : List (Binary64 × ControlCall)) : ∀ c : Control,
    (c.applyAll calls).stopped = (c.stopped || calls.any fun x => x.2 == .stop) := by
  induction calls with
  | nil => exact fun c => (Bool.or_false _).symm
  | cons x calls ih =>
    intro c
    have hstop : Signal.asksStop (.control x.2) = (x.2 == .stop) := by cases x.2 <;> rfl
    rw [List.any_cons, ← hstop, ← Bool.or_assoc, ← Control.after_stopped]
    exact ih _

namespace Rehearsal

variable {W : Type} (respond : Responder W)

/-! ## A browser that is closed -/

theorem play_close {s : Scene W} (h : s.browser.IsClosed) (t : Binary64) :
    s.play respond Browser.close t = ⟨[], some ⟨t, .ok (), s.browser, s.world⟩⟩ := by
  unfold Scene.play
  rw [h.close_eq]
  rfl

theorem after_close (s : Scene W) (t : Binary64) (r : Except Fault Unit) :
    s.after ⟨[], some ⟨t, r, s.browser, s.world⟩⟩ = s := by
  obtain ⟨browser, world, calls⟩ := s
  simp [Scene.after, Scene.note]

theorem turnOf_close {s : Scene W} (h : s.browser.IsClosed) (t : Binary64) :
    ∃ cutAt, (browserTroupe respond).close t s = ⟨[], some (t, .finished .nothing), s, cutAt⟩ := by
  unfold browserTroupe turnOf
  simp only
  rw [play_close respond h t, after_close]
  exact ⟨_, rfl⟩

/-! ## Failing a session on a stage -/

namespace Stage

/-- Calls on the token change nothing but the token before the run has started. -/
theorem tell_controls (calls : List (Binary64 × ControlCall)) : ∀ (s : Stage (Scene W)), s.monitor.phase = .ready →
    ∃ time, (calls.map fun c => (c.1, Interruption.control c.2)).foldl
      (fun s c => { s with time := s.time.greatest c.1 }.tell c.2.signal) s =
        { s with time, monitor := { s.monitor with control := s.monitor.control.applyAll calls } } := by
  induction calls with
  | nil => exact fun s _ => ⟨s.time, rfl⟩
  | cons x calls ih =>
    intro s hready
    have hx : { s with time := s.time.greatest x.1 }.tell (Interruption.control x.2).signal =
        { s with time := s.time.greatest x.1, monitor := { s.monitor with control := s.monitor.control.apply x.2 } } := by
      simp only [tell, Interruption.signal, Monitor.receive, Monitor.applyControl, hready]
    obtain ⟨time, ht⟩ := ih { s with
      time := s.time.greatest x.1, monitor := { s.monitor with control := s.monitor.control.apply x.2 } } hready
    refine ⟨time, ?_⟩
    rw [List.map_cons, List.foldl_cons, hx, ht]
    rfl

structure IsIdle (s : Stage (Scene W)) : Prop where
  ready : s.monitor.phase = .ready
  unfinished : s.monitor.isFinished = false
  requests : s.monitor.requests = []
  taken : s.taken = 0
  running : s.running = none
  timer : s.timer = none
  browser : s.scene.browser.IsClosed

variable {p : Plan} {c : Control}

theorem advance_closing {s : Stage (Scene W)} (hphase : s.monitor.phase = .closing) (htimer : s.timer = none)
    {cutAt : Binary64 → Scene W} (hrun : s.running = some ⟨[], some (s.time, .finished .nothing), s.scene, cutAt⟩)
    (hnext : ∀ x ∈ s.interruptions.head?, x.1.lt s.time = false) (n : Nat) :
    ∃ s' now, s.advance (browserTroupe respond) (n + 2) = (s', true) ∧ s'.monitor = s.monitor.announceEnd now ∧
      s'.scene = s.scene := by
  have hcoming : s.coming = some (s.time, .workEnd s.scene (.finished .nothing)) := by
    simp only [coming, hrun, htimer, Option.bind_some, Option.map_some, Option.map_none]
    cases hi : s.interruptions with
    | nil => rfl
    | cons x rest =>
      have hx : x.1.lt s.time = false := hnext x (by rw [hi]; rfl)
      simp only [earlier, hx, Bool.false_eq_true, if_false]
  let s' := s.happen s.time (.workEnd s.scene (.finished .nothing))
  have hs' : ∃ now, s'.monitor = s.monitor.announceEnd now ∧ s'.scene = s.scene := by
    simp only [s', happen, hphase, tell, Monitor.receive]
    exact ⟨_, rfl, trivial⟩
  obtain ⟨now, hmonitor, hscene⟩ := hs'
  have hwait : s.monitor.isOver = false ∧ s.monitor.isReady = false := by
    simp only [Monitor.isOver, Monitor.isReady, hphase, and_self]
  have hover : s'.monitor.isOver = true := by rw [hmonitor]; rfl
  refine ⟨s', now, ?_, hmonitor, hscene⟩
  rw [advance, hwait.1, if_neg Bool.false_ne_true, hcoming]
  simp only [hwait.2, Bool.false_and, Bool.false_eq_true, if_false]
  rw [advance, if_pos hover]

theorem command_fail {s : Stage (Scene W)} (h : s.IsIdle) (hinv : s.monitor.Inv p c)
    (hnext : ∀ x ∈ s.interruptions.head?, x.1.lt s.time = false) (reason : String) :
    ∃ s', s.command (browserTroupe respond) (.fail reason) = (s', true) ∧ s'.scene = s.scene ∧
      s'.monitor.phase = .finished ∧ s'.monitor.session = (s.monitor.failSession s.now reason).session ∧
        ∀ r ∈ s'.monitor.asked, r.isPerform = false := by
  obtain ⟨hfail, hphase, hreq, hsteps⟩ := Monitor.failSession_effect s.now reason hinv h.ready
  have htell : s.tell (.fail reason) = { s with monitor := s.monitor.failSession s.now reason } := by
    simp only [tell, Monitor.receive, h.ready, h.unfinished, Bool.false_eq_true, if_false]
  let s₁ : Stage (Scene W) := { s with monitor := s.monitor.failSession s.now reason }
  have hfuel : ∀ s : Stage (Scene W), ∃ n, s.fuel = n + 2 := fun s => ⟨_, rfl⟩
  unfold command
  simp only [htell]
  rw [h.requests, List.nil_append] at hreq
  cases hst : c.stopped with
  | false =>
    simp only [hst, Bool.false_eq_true, if_false] at hphase hreq
    have htake : s₁.takeUpAll (browserTroupe respond) = s₁ := by
      simp only [takeUpAll, s₁, hreq, List.drop_nil, List.foldl_nil]
    obtain ⟨n, hn⟩ := hfuel s₁
    refine ⟨s₁, ?_, rfl, hphase, rfl, ?_⟩
    · rw [htake, hn, advance, if_pos (by simp only [Monitor.isOver, s₁, hphase])]
    · intro r hr
      rw [Monitor.asked, hreq] at hr
      cases hr
  | true =>
    -- only a stop leaves something to wait for, the closing of the browser
    simp only [hst, if_true] at hphase hreq
    obtain ⟨cutAt, hclose⟩ := turnOf_close respond h.browser s.time
    let turn : Turn (Scene W) := ⟨[], some (s.time, .finished .nothing), s.scene, cutAt⟩
    let s₂ : Stage (Scene W) := { s₁ with taken := 1, running := some turn }
    have htake : s₁.takeUpAll (browserTroupe respond) = s₂ := by
      simp only [takeUpAll, s₁, hreq, h.taken, List.drop_zero, List.foldl_cons, List.foldl_nil, takeUp, cut, h.running,
        hclose]
      simp only [s₂, s₁, turn, h.timer]
    obtain ⟨n, hn⟩ := hfuel s₂
    obtain ⟨s₃, now, hadvance, hmonitor, hscene⟩ := s₂.advance_closing respond hphase h.timer rfl hnext n
    refine ⟨s₃, ?_, hscene, ?_, ?_, ?_⟩
    · rw [htake, hn, hadvance]
    · rw [hmonitor]
      rfl
    · rw [hmonitor]
      rfl
    · intro r hr
      have hasked : s₃.monitor.asked = [.closeBrowser] := by
        rw [hmonitor]
        exact congrArg (List.map (·.2)) hreq
      rw [hasked] at hr
      rw [List.mem_singleton.mp hr]
      rfl

end Stage

/-! ## Runs -/

/-- A stage on which a run of steps has been set up at a time, with calls still to come. -/
structure Stage.IsSetUp (steps : List Step) (calls : List (Binary64 × ControlCall)) (t : Binary64) (s : Stage (Scene W)) :
    Prop where
  idle : s.IsIdle
  time : s.time = t
  created : ∃ now id taskName, Monitor.create now id taskName s.monitor.plan {} = .ok s.monitor
  steps : s.monitor.plan.steps = steps
  calls : s.interruptions = calls.map fun c => (c.1, .control c.2)
  untouched : s.scene.calls = []

/-- What is left of a run whose browser could not be started. -/
structure RunReport.IsUnlaunched (r : RunReport W) (launch : List (Checkpoint W)) (steps : List Step) (stopped : Bool)
    (reason : String) : Prop where
  ended : r.ended.isSome = true
  finished : r.monitor.phase = .finished
  asked : ∀ q ∈ r.monitor.asked, q.isPerform = false
  calls : r.scene.calls = launch.map fun c => (c.time, c.call)
  records : List.Forall₂ StepStatus.IsSettledFor steps r.monitor.session.steps
  failed : ∀ st ∈ r.monitor.session.steps, st.state = .failed ∧ st.error = some reason
  total : r.monitor.session.totalSteps = steps.length
  failedSteps : r.monitor.session.failedSteps = r.monitor.session.totalSteps
  state : r.monitor.session.state = if steps.isEmpty && !stopped then .completed else .failed

section
variable {steps : List Step} {calls : List (Binary64 × ControlCall)} {t : Binary64} {s : Stage (Scene W)}
  (h : s.IsSetUp steps calls t) (profile : Profile) {e : Ending Profile W} {f : Fault}
  (he : (s.scene.play respond (Browser.launch (some profile)) t).ending = some e) (hf : e.result = .error f)
include h he hf

/-- Once the launch has failed the session is failed, with the token as the
calls that came before have left it. -/
theorem playRun_fail : ∃ s₁ : Stage (Scene W), s₁.IsIdle ∧
    s₁.monitor = { s.monitor with control := s.monitor.control.applyAll (calls.takeWhile fun c => c.1.lt e.time) } ∧
      s₁.scene = s.scene.after (s.scene.play respond (Browser.launch (some profile)) t) ∧
        (∀ x ∈ s₁.interruptions.head?, x.1.lt s₁.time = false) ∧
          playRun respond profile s = playOut respond (.fail (launchReason f)) s₁ := by
  let p := s.scene.play respond (Browser.launch (some profile)) t
  let before := calls.takeWhile fun c => c.1.lt e.time
  let behind := calls.dropWhile fun c => c.1.lt e.time
  obtain ⟨time, htell⟩ := Stage.tell_controls before s h.idle.ready
  let s₁ : Stage (Scene W) :=
    { s with
      time := e.time
      monitor := { s.monitor with control := s.monitor.control.applyAll before }
      scene := s.scene.after p
      interruptions := behind.map fun c => (c.1, .control c.2) }
  have hclosed : s₁.scene.browser.IsClosed := by
    have hbrowser : (s.scene.after p).browser = e.browser := by
      unfold Scene.after
      simp only [p, he]
    rw [show s₁.scene.browser = e.browser from hbrowser]
    exact ((Browser.launch_ensures h.idle.browser profile).play respond he f hf).2
  have hidle : s₁.IsIdle :=
    ⟨h.idle.ready, h.idle.unfinished, h.idle.requests, h.idle.taken, h.idle.running, h.idle.timer, hclosed⟩
  refine ⟨s₁, hidle, rfl, rfl, ?_, ?_⟩
  · intro x hx
    simp only [s₁, List.head?_map, Option.mem_def, Option.map_eq_some_iff] at hx
    obtain ⟨y, hy, rfl⟩ := hx
    have hhead := List.head?_dropWhile_not (fun c : Binary64 × ControlCall => c.1.lt e.time) calls
    rw [show (calls.dropWhile fun c => c.1.lt e.time).head? = some y from hy] at hhead
    exact hhead
  · have hsplit : interruptionsBefore (some e.time) s.interruptions =
        (before.map fun c => (c.1, .control c.2), behind.map fun c => (c.1, .control c.2)) := by
      rw [h.calls, interruptionsBefore, List.takeWhile_map, List.dropWhile_map]
      rfl
    unfold playRun
    simp only [h.time, he, Option.map_some, hsplit, htell, hf]
    rw [play_close respond hidle.browser, after_close]

theorem playRun_unlaunched : (∃ message, f = .sessionInit message) ∧
    (playRun respond profile s).IsUnlaunched (s.scene.play respond (Browser.launch (some profile)) t).checkpoints steps
      ((calls.takeWhile fun c => c.1.lt e.time).any fun c => c.2 == .stop) (launchReason f) := by
  refine ⟨((Browser.launch_ensures h.idle.browser profile).play respond he f hf).1, ?_⟩
  obtain ⟨s₁, hidle, hmonitor, hscene, hnext, hplay⟩ := playRun_fail respond h profile he hf
  let control := s.monitor.control.applyAll (calls.takeWhile fun c => c.1.lt e.time)
  obtain ⟨now, id, taskName, hcreate⟩ := h.created
  have hinv₀ := Monitor.create_inv hcreate
  have hinv : s₁.monitor.Inv s.monitor.plan control := by
    rw [hmonitor]
    refine ⟨rfl, rfl, hinv₀.phase.mono rfl rfl (fun hst => nomatch hst) ?_⟩
    rw [h.idle.ready]
    exact fun hn => nomatch hn
  obtain ⟨s', hcommand, hscene', hphase, hsession, hasked⟩ := s₁.command_fail respond hidle hinv hnext (launchReason f)
  obtain ⟨hover, _, _, hsteps⟩ := Monitor.failSession_effect s₁.now (launchReason f) hinv hidle.ready
  rw [← hsession] at hover hsteps
  have hout : playRun respond profile s = ⟨s'.monitor, s'.scene, some s'.time⟩ := by
    have hb : s'.scene.browser.IsClosed := hscene' ▸ hidle.browser
    rw [hplay, playOut, hcommand]
    simp only
    rw [play_close respond hb, after_close]
    rfl
  have hfailed : ∀ st ∈ s'.monitor.session.steps, st.state = .failed ∧ st.error = some (launchReason f) := by
    intro st hst
    rw [hsteps] at hst
    obtain ⟨step, _, rfl⟩ := List.mem_map.mp hst
    exact ⟨rfl, rfl⟩
  have hstopped : control.stopped = (calls.takeWhile fun c => c.1.lt e.time).any fun c => c.2 == .stop := by
    rw [Control.applyAll_stopped, hinv₀.control]
    exact Bool.false_or _
  obtain ⟨htotal, hcount, hstate⟩ := hover.of_failed fun st hst => (hfailed st hst).1
  rw [h.steps] at htotal hcount
  rw [hout]
  refine ⟨rfl, hphase, hasked, ?_, h.steps ▸ hover.cut.settled, hfailed, htotal, hcount.trans htotal.symm, ?_⟩
  · simp only [hscene', hscene, Scene.after, he, Scene.note, h.untouched, List.nil_append]
  · rw [hstate, h.steps, hstopped]

end

theorem setUp_ok {o : RunOptions} {script : String} {c : Script.Compiled} (hs : o.settings.IsValid) (hb : o.crash = none)
    (hc : Script.compileWith o.settings.compiler.retries script = .ok c) (t : Binary64) (world : W) :
    ∃ profile s, setUp o script t world = .ok (profile, s) ∧ s.IsSetUp c.steps o.controls t := by
  obtain ⟨strategy, hstrategy⟩ := hs.strategy
  unfold setUp
  simp only [hc, hs.pacer, hb, hstrategy, Except.mapError, ok_bind, Monitor.create, Script.compileWith_checkSequence hc,
    Except.map]
  refine ⟨_, _, rfl, ⟨rfl, rfl, rfl, rfl, rfl, rfl, rfl, rfl, rfl⟩, rfl, ⟨.ofSeconds t, "uuid", o.taskName, ?_⟩, rfl, rfl, rfl⟩
  unfold Monitor.create
  rw [Script.compileWith_checkSequence hc]
  rfl

/-- **A browser that cannot be started fails the session.** The one exception
is a script without steps whose session nobody stops in time: it is completed. -/
theorem launch_failure {o : RunOptions} {script : String} {c : Script.Compiled} (hs : o.settings.IsValid)
    (hb : o.crash = none) (hc : Script.compileWith o.settings.compiler.retries script = .ok c) (t : Binary64) (world : W) :
    ∃ profile s, setUp o script t world = .ok (profile, s) ∧ ∀ e f,
      (s.scene.play respond (Browser.launch (some profile)) t).ending = some e → e.result = .error f →
        (∃ message, f = .sessionInit message) ∧ ∃ r, runScript respond o script t world = .ok r ∧
          r.IsUnlaunched (s.scene.play respond (Browser.launch (some profile)) t).checkpoints c.steps
            ((o.controls.takeWhile fun x => x.1.lt e.time).any fun x => x.2 == .stop) (launchReason f) := by
  obtain ⟨profile, s, hsetUp, h⟩ := setUp_ok hs hb hc t world
  refine ⟨profile, s, hsetUp, fun e f he hf => ?_⟩
  obtain ⟨hinit, hrun⟩ := playRun_unlaunched respond h profile he hf
  exact ⟨hinit, playRun respond profile s, by rw [runScript, hsetUp]; rfl, hrun⟩

private def chromeless : Responder Unit := fun t c _ =>
  match c with
  | .launch _ => ⟨(), some t, .raised (.foreign "PlaywrightError" "no chrome")⟩
  | _ => ⟨(), some t, .value .null⟩

private def plainOptions : RunOptions where
  settings := { projectRoot := ⟨"/", []⟩ }
  profile := some ⟨"Mozilla/5.0", ⟨1280, 720⟩, "Europe/Berlin", "de-DE"⟩

private theorem plainOptions_valid : plainOptions.settings.IsValid :=
  ⟨Nat.zero_lt_succ _, Binary64.isNonneg_ofNat 1, Binary64.isNonneg_ofNat 1, Binary64.isNonneg_ofNat 30,
    Binary64.isNonneg_ofNat 5⟩

private def launchFault (x : Except RunFault (Profile × Stage (Scene Unit))) : Option Fault := do
  let (profile, s) ← x.toOption
  let e ← (s.scene.play chromeless (Browser.launch (some profile)) (.zero false)).ending
  match e.result with
  | .ok _ => none
  | .error f => some f

private def chromelessFault : Fault := .sessionInit "Browser failed to start: no chrome"

/-- A step that is never run, as the browser does not start. -/
theorem launch_failure_chromeless : plainOptions.settings.IsValid ∧ plainOptions.crash = none ∧
    (∃ c, Script.compileWith plainOptions.settings.compiler.retries "// step 1\nawait page.click('#buy')" = .ok c) ∧
      launchFault (setUp plainOptions "// step 1\nawait page.click('#buy')" (.zero false) ()) = some chromelessFault ∧
        ∃ r, runScript chromeless plainOptions "// step 1\nawait page.click('#buy')" (.zero false) () = .ok r ∧
          r.monitor.session.state = .failed ∧ r.monitor.session.failedSteps = 1 := by
  have hc : Script.compileWith plainOptions.settings.compiler.retries "// step 1\nawait page.click('#buy')" =
      .ok ⟨[⟨"step-1", 1, .click "#buy", [], ⟨false, 3⟩⟩], []⟩ := by rfl
  have hl : launchFault (setUp plainOptions "// step 1\nawait page.click('#buy')" (.zero false) ()) =
      some chromelessFault := by decide +kernel
  refine ⟨plainOptions_valid, rfl, ⟨_, hc⟩, hl, ?_⟩
  obtain ⟨profile, s, hs, h⟩ := launch_failure chromeless plainOptions_valid rfl hc (.zero false) ()
  rw [hs] at hl
  simp only [launchFault, Except.toOption, Option.bind_eq_bind, Option.bind_some, Option.bind_eq_some_iff] at hl
  obtain ⟨e, he, hf⟩ := hl
  cases hres : e.result with
  | ok p =>
    rw [hres] at hf
    cases hf
  | error f =>
    obtain ⟨_, r, hr, hun⟩ := h e f he hres
    exact ⟨r, hr, hun.state, hun.failedSteps.trans hun.total⟩

/-- A script without steps, of which the session is completed although the
browser does not start. -/
theorem launch_failure_without_steps : plainOptions.settings.IsValid ∧
    Script.compileWith plainOptions.settings.compiler.retries "" = .ok ⟨[], []⟩ ∧
      launchFault (setUp plainOptions "" (.zero false) ()) = some chromelessFault ∧
        (runScript chromeless plainOptions "" (.zero false) ()).toOption.map (·.monitor.session.state) =
          some .completed := by
  refine ⟨plainOptions_valid, by rfl, ?_, ?_⟩
  · decide +kernel
  · decide +kernel

end Rehearsal

end BrowserPilot
