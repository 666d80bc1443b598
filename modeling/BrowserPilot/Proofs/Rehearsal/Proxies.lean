import BrowserPilot.Proofs.Browser.Asking
import BrowserPilot.Proofs.Rehearsal.Batch

/-!
# The proxies of a batch

The browser of every job takes its proxies from a pool of its own. As it starts
one process, it only ever gets to the first of a cycle.
-/

namespace BrowserPilot

theorem ProxyPool.next_first {p : ProxyPool} (hcycle : p.atRandom = false) (htaken : p.taken = 0) {first : String}
    {others : List String} (hp : p.proxies = first :: others) (random : Twister) :
    (p.next random).1.1 = some first := by
  unfold ProxyPool.next
  simp only [hp, hcycle, htaken, reduceCtorEq, dite_false, Bool.false_eq_true, if_false, Nat.zero_mod]
  rfl

namespace Rehearsal

variable {W : Type}

/-! ## What stays true of a scene -/

section
variable {S : Type} {P : S → Prop}

/-- A turn that leaves behind scenes of one kind, even when it is cut short. -/
structure Turn.Keeps (P : S → Prop) (u : Turn S) : Prop where
  after : P u.after
  cutAt : ∀ t, P (u.cutAt t)

/-- Those who only turn scenes of one kind into others of it. -/
structure Troupe.Keeps (P : S → Prop) (troupe : Troupe S) : Prop where
  perform : ∀ t a s, P s → (troupe.perform t a s).Keeps P
  close : ∀ t s, P s → (troupe.close t s).Keeps P
  delay : ∀ t seconds s, P s → P (troupe.delay t seconds s)

structure Stage.Keeps (P : S → Prop) (s : Stage S) : Prop where
  scene : P s.scene
  running : ∀ u ∈ s.running, u.Keeps P

namespace Stage

variable {troupe : Troupe S} {s : Stage S}

theorem Keeps.tell (h : s.Keeps P) (signal : Signal) : (s.tell signal).Keeps P := ⟨h.scene, h.running⟩

theorem Keeps.tellAll (h : s.Keeps P) (calls : List Interruption) :
    (calls.foldl (fun s c => s.tell c.signal) s).Keeps P := by
  induction calls generalizing s with
  | nil => exact h
  | cons c calls ih => exact ih (h.tell c.signal)

theorem Keeps.cut (h : s.Keeps P) : s.cut.Keeps P := by
  unfold Stage.cut
  split
  · rename_i u hu
    exact ⟨(h.running u hu).cutAt _, by rintro _ ⟨⟩⟩
  · exact ⟨h.scene, h.running⟩

theorem Keeps.stalled (h : s.Keeps P) : P s.stalled := by
  unfold Stage.stalled
  split
  · rename_i u hu
    exact (h.running u hu).after
  · exact h.scene

theorem Keeps.happen (h : s.Keeps P) {t : Binary64} {c : Coming S} (hc : s.coming = some (t, c)) :
    (s.happen t c).Keeps P := by
  cases c with
  | workEnd after o =>
    obtain ⟨u, hu, _, _, _, rfl⟩ := coming_workEnd hc
    have hafter := (h.running u hu).after
    unfold Stage.happen
    dsimp only
    split
    · exact ⟨hafter, by rintro _ ⟨⟩⟩
    · exact ⟨hafter, by rintro _ ⟨⟩⟩
  | timerEnd => exact ⟨h.scene, h.running⟩
  | interruption c rest => exact ⟨h.scene, h.running⟩

variable (ht : troupe.Keeps P)
include ht

theorem Keeps.takeUp (h : s.Keeps P) (r : Request) : (s.takeUp troupe r).Keeps P := by
  cases r with
  | perform a =>
    have hturn := ht.perform s.time a s.scene h.scene
    let begun : Stage S := { s with timer := none, running := some (troupe.perform s.time a s.scene) }
    have hbegun : begun.Keeps P := ⟨h.scene, fun _ hu => Option.mem_some.mp hu ▸ hturn⟩
    exact hbegun.tellAll _
  | sleep seconds => exact ⟨ht.delay _ _ _ h.scene, h.running⟩
  | grace seconds => exact ⟨h.scene, h.running⟩
  | closeBrowser =>
    have hcut := h.cut.scene
    have hturn := ht.close s.cut.time s.cut.scene hcut
    exact ⟨hcut, fun _ hu => Option.mem_some.mp hu ▸ hturn⟩

/-- **What all keep who take part, a stage keeps.** -/
theorem keeps_kept : Stage.Kept troupe (Stage.Keeps P) where
  tell h := h.tell
  takeUp {s} h := Keeps.takeUp ht (s := { s with taken := s.taken + 1 }) ⟨h.scene, h.running⟩
  happen h := h.happen

end Stage

end

/-! ## Scenes behind some calls -/

/-- Some calls have been made in a scene, and then only such as a predicate allows. -/
def Scene.Extends (P : Call → Prop) (calls : List (Binary64 × Call)) (s : Scene W) : Prop :=
  ∃ more, s.calls = calls ++ more ∧ ∀ c ∈ more, P c.2

section
variable {α : Type} {P : Call → Prop} {calls : List (Binary64 × Call)} {s : Scene W} (respond : Responder W)

theorem Scene.extends_self (s : Scene W) : s.Extends P s.calls := ⟨[], (List.append_nil _).symm, nofun⟩

theorem Scene.Extends.note (h : s.Extends P calls) {cs : List (Checkpoint W)} (hcs : ∀ c ∈ cs, P c.call) :
    (s.note cs).Extends P calls := by
  obtain ⟨more, hs, hmore⟩ := h
  refine ⟨more ++ cs.map fun c => (c.time, c.call), ?_, List.forall_mem_append.mpr ⟨hmore, ?_⟩⟩
  · rw [← List.append_assoc, ← hs]
    rfl
  · intro c hc
    obtain ⟨d, hd, rfl⟩ := List.mem_map.mp hc
    exact hcs d hd

theorem play_asks {x : Program α} (hx : x.AsksOnly P) : ∀ (t : Binary64) (w : W),
    ∀ c ∈ (play respond x t w).checkpoints, P c.call := by
  induction x with
  | done b result => exact fun _ _ => List.forall_mem_nil _
  | ask b c next ih =>
    intro t w
    simp only [play]
    cases (respond t c w).comes with
    | none => exact List.forall_mem_singleton.mpr hx.1
    | some t' => exact List.forall_mem_cons.mpr ⟨hx.1, ih _ (hx.2 _) _ _⟩

theorem Scene.Extends.after (h : s.Extends P calls) {work : Work α} (hw : work.AsksOnly P) (t : Binary64) :
    (s.after (s.play respond work t)).Extends P calls := by
  have hnote := h.note (play_asks respond (hw.program s.browser) t s.world)
  unfold Scene.after
  split
  · exact hnote
  · exact hnote
  · exact h

theorem Scene.Extends.cutAt (h : s.Extends P calls) {work : Work α} (hw : work.AsksOnly P) (t t' : Binary64) :
    (s.cutAt (s.play respond work t) t').Extends P calls := by
  have hasks := play_asks respond (hw.program s.browser) t s.world
  unfold Scene.cutAt
  dsimp only
  split
  · exact h.note fun c hc => hasks c ((List.takeWhile_sublist _).subset hc)
  · exact h

theorem browserTroupe_keeps (hperform : ∀ a, (Browser.perform a).AsksOnly P) (hclose : Browser.close.AsksOnly P)
    (hsleep : ∀ seconds, P (.sleep seconds)) : (browserTroupe respond).Keeps (Scene.Extends P calls) where
  perform t a _ h := ⟨h.after respond (hperform a) t, h.cutAt respond (hperform a) t⟩
  close t _ h := ⟨h.after respond hclose t, h.cutAt respond hclose t⟩
  delay t seconds s h := by
    obtain ⟨more, hs, hmore⟩ := h
    refine ⟨more ++ [(t, .sleep seconds)], ?_, List.forall_mem_append.mpr ⟨hmore, ?_⟩⟩
    · rw [← List.append_assoc, ← hs]
      rfl
    · exact List.forall_mem_singleton.mpr (hsleep seconds)

end

/-! ## The calls of a run -/

section
variable (respond : Responder W) {s : Stage (Scene W)} {calls : List (Binary64 × Call)}

theorem playOut_extends (h : s.Keeps (Scene.Extends (fun c => c.launch? = none) calls)) (c : Command) :
    (playOut respond c s).scene.Extends (fun c => c.launch? = none) calls := by
  have hcommand := (Stage.keeps_kept
    (browserTroupe_keeps respond Browser.perform_launches Browser.close_launches fun _ => rfl)).command h c
  unfold playOut
  generalize s.command (browserTroupe respond) c = x at hcommand
  obtain ⟨s, b⟩ := x
  cases b with
  | false => exact hcommand.stalled
  | true => exact hcommand.scene.after respond Browser.close_launches s.time

theorem playRun_unended {profile : Profile}
    (h : (s.scene.play respond (Browser.launch (some profile)) s.time).ending = none) :
    (playRun respond profile s).scene = s.scene.after (s.scene.play respond (Browser.launch (some profile)) s.time) := by
  unfold playRun
  simp only [h]
  rw [(s.tell_interruptions _).1]

/-- Nothing is started in a run but by its launch. -/
theorem playRun_extends (hidle : s.IsIdle) (profile : Profile) : (playRun respond profile s).scene.Extends
    (fun c => c.launch? = none) (s.scene.after (s.scene.play respond (Browser.launch (some profile)) s.time)).calls := by
  unfold playRun
  generalize s.scene.play respond (Browser.launch (some profile)) s.time = p
  dsimp only
  obtain ⟨hscene, hrunning⟩ := s.tell_interruptions (interruptionsBefore (p.ending.map (·.time)) s.interruptions).1
  generalize (interruptionsBefore (p.ending.map (·.time)) s.interruptions).1.foldl
    (fun s c => { s with time := s.time.greatest c.1 }.tell c.2.signal) s = s₁ at hscene hrunning
  have hnone : ∀ u ∈ s₁.running, u.Keeps
      (Scene.Extends (fun c => c.launch? = none) (s₁.scene.after p).calls) := by
    rw [hrunning, hidle.running]
    rintro _ ⟨⟩
  rw [← hscene]
  have hself := (s₁.scene.after p).extends_self (P := fun c => c.launch? = none)
  split
  · exact hself
  · split
    · exact playOut_extends respond (s := { s₁ with time := _, scene := _, interruptions := _ }) ⟨hself, hnone⟩ .run
    · exact playOut_extends respond (s := { s₁ with time := _, scene := _, interruptions := _ })
        ⟨hself.after respond Browser.close_launches _, hnone⟩ _

end

/-- Calls in which no process is started, or one with given options right behind the driver. -/
def StartsOnce (options : LaunchOptions) (calls : List Call) : Prop :=
  calls = [] ∨ calls = [.start] ∨ ∃ more, calls = .start :: .launch options :: more ∧ ∀ c ∈ more, c.launch? = none

section
variable (respond : Responder W) {browser : Browser} (hb : browser.IsClosed) (profile : Profile)
include hb

/-- The calls of a launch, which comes to an end without a process only by a fault. -/
theorem play_launch (t : Binary64) (w : W) :
    let p := play respond (Browser.launch (some profile) browser) t w
    p.checkpoints.map (·.call) = [.start] ∧ (p.ending = none ∨ ∃ e f, p.ending = some e ∧ e.result = .error f) ∨
      ∃ more, p.checkpoints.map (·.call) =
          .start :: .launch ⟨browser.headless, browser.sandbox, (browser.proxies.next browser.random).1.1⟩ :: more ∧
        ∀ c ∈ more, c.launch? = none := by
  obtain ⟨b₀, next, hlaunch, hfault, hnext⟩ := Browser.launch_eq hb profile
  rw [hlaunch]
  simp only [play]
  cases (respond t .start w).comes with
  | none => exact .inl ⟨rfl, .inl rfl⟩
  | some t' =>
    cases hreply : (respond t .start w).reply.isFault with
    | true =>
      obtain ⟨f, hf⟩ : ∃ f, (respond t .start w).reply = .raised f := by
        cases h : (respond t .start w).reply <;> simp_all [Reply.isFault]
      obtain ⟨b', e, he⟩ := hfault f
      rw [hf, he]
      exact .inl ⟨rfl, .inr ⟨_, e, rfl, rfl⟩⟩
    | false =>
      obtain ⟨b', next', hnext', hasks⟩ := hnext _ hreply
      rw [hnext']
      simp only [play]
      cases (respond t' _ (respond t .start w).world).comes with
      | none => exact .inr ⟨[], rfl, List.forall_mem_nil _⟩
      | some t'' =>
        refine .inr ⟨_, rfl, fun c hc => ?_⟩
        obtain ⟨d, hd, rfl⟩ := List.mem_map.mp hc
        exact play_asks respond (hasks _) _ _ d hd

theorem playRun_startsOnce {o : RunOptions} {plan : Plan} (hseq : Step.checkSequence plan.steps = .ok ()) (t : Binary64)
    (world : W) : StartsOnce ⟨browser.headless, browser.sandbox, (browser.proxies.next browser.random).1.1⟩
      ((playRun respond profile (.fresh o plan browser t world)).scene.calls.map (·.2)) := by
  have hset := Stage.fresh_isSetUp (o := o) hseq hb t world
  have hcalls : ∀ p : Performance Profile W, ((Stage.fresh o plan browser t world).scene.after p).calls =
      p.checkpoints.map fun c => (c.time, c.call) := by
    intro p
    unfold Scene.after
    split
    · rfl
    · rfl
    · rename_i hlast
      rw [List.getLast?_eq_none_iff.mp hlast]
      rfl
  obtain ⟨more, hmore, hnone⟩ := playRun_extends respond hset.idle profile
  rw [hcalls] at hmore
  rcases play_launch respond hb profile t world with ⟨hstart, hend | ⟨e, f, he, hf⟩⟩ | ⟨behind, hstart, hbehind⟩
  · -- the driver is never answered, and nothing follows
    refine .inr (.inl (Eq.trans ?_ hstart))
    rw [playRun_unended (s := .fresh o plan browser t world) respond hend, hcalls, List.map_map]
    rfl
  · -- the run is over with the failed launch
    refine .inr (.inl (Eq.trans ?_ hstart))
    rw [(playRun_unlaunched respond hset profile he hf).2.calls, List.map_map]
    rfl
  · refine .inr (.inr ⟨behind ++ more.map (·.2), ?_, List.forall_mem_append.mpr ⟨hbehind, ?_⟩⟩)
    · rw [hmore, List.map_append, List.map_map]
      exact congrArg (· ++ more.map (·.2)) hstart
    · intro c hc
      obtain ⟨d, hd, rfl⟩ := List.mem_map.mp hc
      exact hnone d hd

end

/-! ## The proxies of a batch -/

theorem StartsOnce.launches {options : LaunchOptions} {calls : List Call} (h : StartsOnce options calls) :
    calls.filterMap Call.launch? = [] ∨ calls.filterMap Call.launch? = [options] := by
  rcases h with rfl | rfl | ⟨more, rfl, hmore⟩
  · exact .inl rfl
  · exact .inl rfl
  · exact .inr (congrArg (List.cons options) (List.filterMap_eq_nil_iff.mpr hmore))

def JobReport.asked (r : JobReport) : List Call := (r.calls.getD []).map (·.2)

/-- The proxies that the processes of some jobs go through, in the order of the jobs. -/
def proxiesOf (reports : List JobReport) : List (Option String) :=
  reports.flatMap fun r => (r.asked.filterMap Call.launch?).map (·.proxy)

section
variable {settings : Settings} {first : String} {others : List String}
  (hrotation : settings.stealth.rotation ≠ "random")
  (hproxies : (ProxyPool.ofList settings.stealth.proxyUrls settings.stealth.rotation).proxies = first :: others)
  (respond : Responder W)
include hrotation hproxies

theorem runJob_startsOnce (e : Engagement W) (t : Binary64) :
    StartsOnce ⟨settings.browser.headless, settings.browser.sandbox, some first⟩ (runJob respond settings e t).asked := by
  rcases setUp_cases (W := W) (e.options settings) e.job.script with
    ⟨f, hf⟩ | ⟨profile, plan, browser, hseq, hb, ⟨pacer, random, rfl⟩, hset⟩
  · rw [runJob_error settings e (runScript_error respond (hf t e.world)), JobReport.asked]
    dsimp only
    split <;> exact .inl rfl
  · have hrun := runScript_ok respond (hset t e.world)
    have hstarts := playRun_startsOnce (o := e.options settings) respond hb profile hseq t e.world
    have hfirst := ProxyPool.next_first (p := .ofList settings.stealth.proxyUrls settings.stealth.rotation)
      (by simpa [ProxyPool.ofList] using hrotation) rfl hproxies random
    unfold Engagement.options at hrun hstarts
    simp only [JobReport.asked, runJob, hrun]
    rw [← hfirst]
    exact hstarts

theorem runJobs_startsOnce (jobs : List (Engagement W)) : ∀ slots, ∀ r ∈ runJobs respond settings jobs slots,
    StartsOnce ⟨settings.browser.headless, settings.browser.sandbox, some first⟩ r.asked := by
  induction jobs with
  | nil => exact fun _ => List.forall_mem_nil _
  | cons e jobs ih =>
    intro slots
    unfold runJobs
    split
    · exact List.forall_mem_nil _
    · exact List.forall_mem_cons.mpr ⟨runJob_startsOnce hrotation hproxies respond e _, ih _⟩

/-- **Every job of a batch goes through the first proxy**, whatever is answered
and however many run at once. So the proxies are taken in a cycle only as far as
the list repeats the first one, and a stretch as long as the list goes through
all of them only if there is no other. -/
theorem batch_keeps_first_proxy {concurrency : Int} {jobs : List (Engagement W)} {reports : List JobReport}
    (h : runMany respond settings concurrency jobs = .ok reports) :
    (∀ r ∈ reports, StartsOnce ⟨settings.browser.headless, settings.browser.sandbox, some first⟩ r.asked) ∧
      (∀ p ∈ proxiesOf reports, p = some first) ∧
        ((∀ k < (proxiesOf reports).length, (proxiesOf reports)[k]? = some ((first :: others)[k % (others.length + 1)]?)) ↔
          ∀ p ∈ (first :: others).take (proxiesOf reports).length, p = first) ∧
          ((∀ k, k + (others.length + 1) ≤ (proxiesOf reports).length → ∀ p ∈ first :: others,
              ∃ j < others.length + 1, (proxiesOf reports)[k + j]? = some (some p)) ↔
            (others.length + 1 ≤ (proxiesOf reports).length → ∀ p ∈ others, p = first)) := by
  have hstarts : ∀ r ∈ reports, StartsOnce ⟨settings.browser.headless, settings.browser.sandbox, some first⟩ r.asked := by
    unfold runMany at h
    split at h
    · cases h
    · cases h
      exact runJobs_startsOnce hrotation hproxies respond jobs _
  have hfirst : ∀ p ∈ proxiesOf reports, p = some first := by
    intro p hp
    obtain ⟨r, hr, hp⟩ := List.mem_flatMap.mp hp
    obtain ⟨o, ho, rfl⟩ := List.mem_map.mp hp
    rcases (hstarts r hr).launches with hnone | hone
    · rw [hnone] at ho
      cases ho
    · rw [hone] at ho
      rw [List.mem_singleton.mp ho]
  generalize proxiesOf reports = taken at hfirst
  have htaken : ∀ k < taken.length, taken[k]? = some (some first) := by
    intro k hk
    rw [List.getElem?_eq_getElem hk, hfirst _ (List.getElem_mem hk)]
  -- from here on all that counts is how many there are
  refine ⟨hstarts, hfirst, ⟨fun hcycle p hp => ?_, fun hsame k hk => ?_⟩, ⟨fun hall hlen p hp => ?_, fun hsame k hk p hp => ?_⟩⟩
  · obtain ⟨i, hi, rfl⟩ := List.mem_take_iff_getElem.mp hp
    have hi' : i < others.length + 1 := lt_of_lt_of_le hi (min_le_right ..)
    have hk := hcycle i (lt_of_lt_of_le hi (min_le_left ..))
    rw [htaken i (lt_of_lt_of_le hi (min_le_left ..)), Nat.mod_eq_of_lt hi', List.getElem?_eq_getElem hi'] at hk
    exact (Option.some_inj.mp (Option.some_inj.mp hk)).symm
  · have hi : k % (others.length + 1) < (first :: others).length := Nat.mod_lt _ (Nat.succ_pos _)
    rw [htaken k hk, List.getElem?_eq_getElem hi, hsame _ (List.mem_take_iff_getElem.mpr ⟨_, ?_, rfl⟩)]
    exact lt_min (lt_of_le_of_lt (Nat.mod_le ..) hk) hi
  · obtain ⟨j, hj, hp⟩ := hall 0 (by omega) p (List.mem_cons_of_mem _ hp)
    rw [htaken _ (by omega)] at hp
    exact (Option.some_inj.mp (Option.some_inj.mp hp)).symm
  · refine ⟨0, Nat.succ_pos _, ?_⟩
    rw [htaken _ (by omega)]
    rcases List.mem_cons.mp hp with rfl | hp
    · rfl
    · rw [hsame (by omega) p hp]

end

private def twoProxies : Settings where
  projectRoot := ⟨"/", []⟩
  stealth := { proxyUrls := ["http://a:1", "", " http://b:2 "] }

private def prompt : Responder Unit := fun t _ _ => ⟨(), some t, .value .null⟩

private def lookAround (taskName : String) : Engagement Unit where
  job := { script := "", taskName, seed := some 1, profile := some ⟨"Mozilla/5.0", ⟨1280, 720⟩, "Europe/Berlin", "de-DE"⟩ }
  world := ()

private theorem twoProxies_pool :
    (ProxyPool.ofList twoProxies.stealth.proxyUrls twoProxies.stealth.rotation).proxies = ["http://a:1", "http://b:2"] := by
  decide +kernel

theorem batch_keeps_first_proxy_lookAround : twoProxies.stealth.rotation ≠ "random" ∧
    (ProxyPool.ofList twoProxies.stealth.proxyUrls twoProxies.stealth.rotation).proxies = ["http://a:1", "http://b:2"] ∧
      ∃ reports, runMany prompt twoProxies 1 [lookAround "one", lookAround "two"] = .ok reports ∧
        (proxiesOf reports).length = 2 ∧ ∀ p ∈ proxiesOf reports, p = some "http://a:1" := by
  have hrotation : twoProxies.stealth.rotation ≠ "random" := by decide
  have hlength : (runMany prompt twoProxies 1 [lookAround "one", lookAround "two"]).toOption.map
      (fun reports => (proxiesOf reports).length) = some 2 := by decide +kernel
  obtain ⟨reports, hrun⟩ : ∃ reports, runMany prompt twoProxies 1 [lookAround "one", lookAround "two"] = .ok reports :=
    ⟨_, rfl⟩
  rw [hrun] at hlength
  obtain ⟨_, hfirst, _⟩ := batch_keeps_first_proxy hrotation twoProxies_pool prompt hrun
  exact ⟨hrotation, twoProxies_pool, reports, hrun, Option.some_inj.mp hlength, hfirst⟩

/-- Two jobs, one after the other. The second goes through the first proxy as well. -/
theorem second_proxy_unused : twoProxies.stealth.rotation = "round_robin" ∧
    (ProxyPool.ofList twoProxies.stealth.proxyUrls twoProxies.stealth.rotation).proxies = ["http://a:1", "http://b:2"] ∧
      (runMany prompt twoProxies 1 [lookAround "one", lookAround "two"]).toOption.map proxiesOf =
        some [some "http://a:1", some "http://a:1"] := by
  refine ⟨rfl, twoProxies_pool, ?_⟩
  decide +kernel

end Rehearsal

end BrowserPilot
