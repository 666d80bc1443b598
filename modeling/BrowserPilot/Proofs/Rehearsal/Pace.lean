import BrowserPilot.Proofs.Browser.Pace
import BrowserPilot.Proofs.Browser.Refusals
import BrowserPilot.Proofs.Rehearsal.Batch

/-!
# Runs at another pace

The scale of pauses changes the times of a run and nothing else. Two runs of a
script that differ in the scale ask the browser for the same, in the same order,
and come to the same session but for times, as long as the time has no part in
the answers.
-/

namespace BrowserPilot.Rehearsal

variable {W : Type}

/-- The time has no part in what is answered, and a sleep comes to its end. -/
structure IsTimeless (respond : Responder W) : Prop where
  comes : ∀ t t' c w, (respond t c w).comes.isSome = (respond t' c w).comes.isSome
  reply : ∀ t t' c w, (respond t c w).reply = (respond t' c w).reply
  world : ∀ t t' c w, (respond t c w).world = (respond t' c w).world
  wakes : ∀ t seconds w, (respond t (.sleep seconds) w).comes.isSome = true
  rested : ∀ t seconds w, (respond t (.sleep seconds) w).reply.isFault = false
  still : ∀ t seconds w, (respond t (.sleep seconds) w).world = w

/-! ## Performances -/

/-- The calls on the driven browser, which a sleep is not. -/
def driving (calls : List Call) : List Call := calls.filter fun c => !c.isSleep

theorem driving_append (calls calls' : List Call) : driving (calls ++ calls') = driving calls ++ driving calls' :=
  List.filter_append ..

theorem driving_sleep {c : Call} (hc : c.isSleep = true) (calls : List Call) : driving (c :: calls) = driving calls :=
  List.filter_cons_of_neg (by simp [hc])

section
variable {α : Type} {p : Pacer}

/-- How everything stands in the end, or as far as it gets. -/
def Performance.standing? (q : Performance α W) : Option (Browser × W) :=
  match q.ending with
  | some e => some (e.browser, e.world)
  | none => q.checkpoints.getLast?.map fun c => (c.browser, c.world)

/-- Two performances that keep step, the second at pace `p`. -/
structure Performance.KeepsStep (p : Pacer) (q q' : Performance α W) : Prop where
  calls : driving (q.checkpoints.map (·.call)) = driving (q'.checkpoints.map (·.call))
  stands : ∃ b w, q.standing? = some (b, w) ∧ q'.standing? = some (b.atPace p, w)
  result : q.ending.map (·.result) = q'.ending.map (·.result)

theorem standing?_cons (c : Checkpoint W) (q : Performance α W) :
    Performance.standing? ⟨c :: q.checkpoints, q.ending⟩ = some (q.standing?.getD (c.browser, c.world)) := by
  unfold Performance.standing?
  cases q.ending with
  | some e => rfl
  | none => cases h : q.checkpoints.getLast? <;> simp [List.getLast?_cons, h]

namespace Performance.KeepsStep

variable {q q' : Performance α W} (h : q.KeepsStep p q')
include h

theorem cons {c c' : Checkpoint W} (hc : c.call = c'.call) :
    KeepsStep p ⟨c :: q.checkpoints, q.ending⟩ ⟨c' :: q'.checkpoints, q'.ending⟩ := by
  obtain ⟨b, w, hq, hq'⟩ := h.stands
  refine ⟨?_, ⟨b, w, ?_, ?_⟩, h.result⟩
  · rw [List.map_cons, List.map_cons, hc, ← List.singleton_append, driving_append, h.calls, ← driving_append]
    rfl
  · rw [standing?_cons, hq, Option.getD_some]
  · rw [standing?_cons, hq', Option.getD_some]

theorem cons_sleep {c : Checkpoint W} (hc : c.call.isSleep = true) :
    KeepsStep p ⟨c :: q.checkpoints, q.ending⟩ q' := by
  obtain ⟨b, w, hq, hq'⟩ := h.stands
  refine ⟨?_, ⟨b, w, ?_, hq'⟩, h.result⟩
  · rw [List.map_cons, driving_sleep hc, h.calls]
  · rw [standing?_cons, hq, Option.getD_some]

theorem cons_sleep' {c : Checkpoint W} (hc : c.call.isSleep = true) :
    KeepsStep p q ⟨c :: q'.checkpoints, q'.ending⟩ := by
  obtain ⟨b, w, hq, hq'⟩ := h.stands
  refine ⟨?_, ⟨b, w, hq, ?_⟩, h.result⟩
  · rw [List.map_cons, driving_sleep hc, h.calls]
  · rw [standing?_cons, hq', Option.getD_some]

end Performance.KeepsStep

variable {respond : Responder W}

theorem play_ending (x : Program α) : ∀ (t : Binary64) (w : W), (play respond x t w).ending = none →
    ∃ t c w, (respond t c w).comes = none := by
  induction x with
  | done b r => exact fun t w h => nomatch h
  | ask b c next ih =>
    intro t w h
    cases hu : (respond t c w).comes with
    | none => exact ⟨t, c, w, hu⟩
    | some u =>
      simp only [play, hu] at h
      exact ih _ u _ h

variable (ht : IsTimeless respond)
include ht

theorem play_keepsStep {x x' : Program α} (h : x.KeepsStep p x') : ∀ (t t' : Binary64) (w : W),
    (play respond x t w).KeepsStep p (play respond x' t' w) := by
  induction h with
  | done b r => exact fun t t' w => ⟨rfl, ⟨b, w, rfl, rfl⟩, rfl⟩
  | ask b c _ ih =>
    intro t t' w
    have hcomes := ht.comes t t' c w
    cases hu : (respond t c w).comes with
    | none =>
      have hu' : (respond t' c w).comes = none := by
        rw [hu] at hcomes
        simpa using hcomes.symm
      simp only [play, hu, hu']
      exact ⟨rfl, ⟨b, (respond t c w).world, rfl, by rw [ht.world t t']; rfl⟩, rfl⟩
    | some u =>
      obtain ⟨u', hu'⟩ : ∃ u', (respond t' c w).comes = some u' := by
        rw [hu] at hcomes
        exact Option.isSome_iff_exists.mp hcomes.symm
      simp only [play, hu, hu']
      rw [ht.reply t' t c w, ht.world t' t c w]
      exact (ih (respond t c w).reply u u' (respond t c w).world).cons rfl
  | sleep b seconds _ ih =>
    intro t t' w
    obtain ⟨u, hu⟩ := Option.isSome_iff_exists.mp (ht.wakes t seconds w)
    have hrest := ih _ (ht.rested t seconds w) u t' w
    simp only [play, hu, ht.still]
    exact hrest.cons_sleep rfl
  | sleep' b seconds _ ih =>
    intro t t' w
    obtain ⟨u, hu⟩ := Option.isSome_iff_exists.mp (ht.wakes t' seconds w)
    have hrest := ih _ (ht.rested t' seconds w) t u w
    simp only [play, hu, ht.still]
    exact hrest.cons_sleep' rfl

end

/-! ## Scenes -/

/-- Two scenes that keep step, the second at pace `p`. -/
structure Scene.KeepsStep (p : Pacer) (s s' : Scene W) : Prop where
  browser : s'.browser = s.browser.atPace p
  world : s'.world = s.world
  calls : driving (s.calls.map (·.2)) = driving (s'.calls.map (·.2))

/-- Scenes keep step, and a call that is never answered may end both runs. -/
def Likeness.paced (respond : Responder W) (p : Pacer) : Likeness W :=
  ⟨Scene.KeepsStep p, ∃ t c w, (respond t c w).comes = none⟩

theorem Scene.after_eq {α : Type} {s : Scene W} {q : Performance α W} {b : Browser} {w : W}
    (h : q.standing? = some (b, w)) : s.after q = { s.note q.checkpoints with browser := b, world := w } := by
  unfold Performance.standing? at h
  unfold Scene.after
  cases he : q.ending with
  | some e =>
    rw [he] at h
    cases h
    rfl
  | none =>
    rw [he] at h
    obtain ⟨c, hc, heq⟩ := Option.map_eq_some_iff.mp h
    cases heq
    rw [hc]

section
variable {α : Type} {p : Pacer} {s s' : Scene W} (hs : s.KeepsStep p s')
include hs

theorem Scene.KeepsStep.after {q q' : Performance α W} (h : q.KeepsStep p q') : (s.after q).KeepsStep p (s'.after q') := by
  obtain ⟨b, w, hq, hq'⟩ := h.stands
  rw [Scene.after_eq hq, Scene.after_eq hq']
  refine ⟨rfl, rfl, ?_⟩
  have hnoted : ∀ (s : Scene W) (cs : List (Checkpoint W)),
      driving ((s.note cs).calls.map (·.2)) = driving (s.calls.map (·.2)) ++ driving (cs.map (·.call)) := by
    intro s cs
    rw [Scene.note, List.map_append, driving_append, List.map_map]
    rfl
  exact (hnoted ..).trans ((congrArg₂ _ hs.calls h.calls).trans (hnoted ..).symm)

variable {respond : Responder W} (ht : IsTimeless respond)
include ht

theorem Scene.KeepsStep.play {work : Work α} (hw : work.AnyPace) (t t' : Binary64) :
    (s.play respond work t).Alike (.paced respond p) s s' (s'.play respond work t') := by
  have hq : (s.play respond work t).KeepsStep p (s'.play respond work t') := by
    unfold Scene.play
    rw [hs.browser, hs.world]
    exact play_keepsStep ht (hw.program p s.browser) t t' s.world
  refine ⟨?_, hs.after hq⟩
  have hresult := hq.result
  cases he : (s.play respond work t).ending with
  | some e =>
    rw [he, Option.map_some] at hresult
    obtain ⟨e', he', hee'⟩ := Option.map_eq_some_iff.mp hresult.symm
    exact .inl ⟨e, e', rfl, he', hee'.symm⟩
  | none =>
    rw [he] at hresult
    exact .inr ⟨play_ending _ t s.world he, rfl, Option.map_eq_none_iff.mp hresult.symm⟩

end

theorem IsTimeless.holds {respond : Responder W} (ht : IsTimeless respond) (p : Pacer) :
    (Likeness.paced respond p).Holds respond respond where
  perform hs a := hs.play ht (Browser.perform_anyPace a)
  launch hs profile := hs.play ht (Browser.launch_anyPace (some profile))
  close hs := hs.play ht Browser.close_anyPace
  delay hs seconds t t' := by
    refine ⟨hs.browser, hs.world, ?_⟩
    simp only [browserTroupe, List.map_append, driving_append, hs.calls]
    rfl

/-! ## Runs -/

def RunOptions.atScale (scale : Binary64) (o : RunOptions) : RunOptions :=
  { o with settings := { o.settings with timing := { o.settings.timing with scale } } }

/-- The scale has no part in whether a run is set up, and only sets the pace of its browser. -/
theorem setUp_atScale (o : RunOptions) (script : String) :
    (∃ f, ∀ scale, scale.IsNonneg → ∀ t (world : W), setUp (o.atScale scale) script t world = .error f) ∨
      ∃ (profile : Profile) (plan : Plan) (browser : Browser), Step.checkSequence plan.steps = .ok () ∧
        ∀ scale, scale.IsNonneg → ∀ t (world : W), setUp (o.atScale scale) script t world =
          .ok (profile, .fresh o plan (browser.atPace ⟨scale⟩) t world) := by
  have hpace : ∀ scale : Binary64, scale.IsNonneg → Pacer.ofScale scale = .ok ⟨scale⟩ := by
    intro scale h
    rw [Pacer.ofScale, h.not_lt, if_neg Bool.false_ne_true]
  unfold setUp RunOptions.atScale
  dsimp only
  cases hc : Script.compileWith o.settings.compiler.retries script with
  | error e => exact .inl ⟨_, fun _ _ _ _ => rfl⟩
  | ok compiled =>
    have hseq := Script.compileWith_checkSequence hc
    cases o.crash with
    | some f =>
      refine .inl ⟨.build f, fun scale h t world => ?_⟩
      rw [hpace scale h]
      rfl
    | none =>
      cases hr : o.settings.retry.strategy? with
      | error r =>
        refine .inl ⟨.refused r, fun scale h t world => ?_⟩
        rw [hpace scale h]
        rfl
      | ok strategy =>
        -- the browser at any one pace will do
        let browser := Browser.create o.settings o.settings.stealth.level.countermeasures ⟨.zero false⟩
        refine .inr ⟨?profile, ?plan, browser ?random, ?steps, fun scale h t world => ?made⟩
        case made =>
          rw [hpace scale h]
          simp only [Except.mapError, ok_bind, Monitor.create, hseq, Except.map]
          rfl
        case steps => exact hseq

def RunReport.Returns (r : RunReport W) : Prop := r.ended.isSome = true ∧ r.fault? = none

/-- Two runs with the same calls on the driven browser, and with the same session
and the same events but for names and times. -/
structure RunReport.SameButTimes (r r' : RunReport W) : Prop where
  calls : driving (r.scene.calls.map (·.2)) = driving (r'.scene.calls.map (·.2))
  session : r.monitor.session.bare = r'.monitor.session.bare
  told : r.monitor.told = r'.monitor.told

/-- **The scale of pauses changes nothing but times.** Two runs at any two scales, and
from any two times on, are refused alike, or do the same and return the same session
but for times, or both wait for the answer to a call that is never answered. -/
theorem runs_at_any_pace {respond : Responder W} (ht : IsTimeless respond) {o : RunOptions} (hcalm : o.controls = [])
    {scale scale' : Binary64} (hs : scale.IsNonneg) (hs' : scale'.IsNonneg) (script : String) (t t' : Binary64)
    (world : W) :
    (∃ f, runScript respond (o.atScale scale) script t world = .error f ∧
      runScript respond (o.atScale scale') script t' world = .error f) ∨
    ∃ r r', runScript respond (o.atScale scale) script t world = .ok r ∧
      runScript respond (o.atScale scale') script t' world = .ok r' ∧ r.SameButTimes r' ∧
        (r.Returns ∧ r'.Returns ∨ (∃ t c w, (respond t c w).comes = none) ∧ r.ended = none ∧ r'.ended = none) := by
  rcases setUp_atScale (W := W) o script with ⟨f, hf⟩ | ⟨profile, plan, browser, hseq, hset⟩
  · exact .inl ⟨f, runScript_error respond (hf scale hs t world), runScript_error respond (hf scale' hs' t' world)⟩
  · refine .inr ⟨_, _, runScript_ok respond (hset scale hs t world), runScript_ok respond (hset scale' hs' t' world), ?_⟩
    have hscene : (Likeness.paced respond ⟨scale'⟩).scenes { browser := browser.atPace ⟨scale⟩, world }
      { browser := browser.atPace ⟨scale'⟩, world } := ⟨rfl, rfl, rfl⟩
    cases playRun_agree (ht.holds ⟨scale'⟩) (Stage.fresh_alike (o := o) hseq _ hcalm hscene t t') profile with
    | ended h hscene =>
      have hphase := h.done.phase
      have hphase' := h.monitor.phase.symm.trans hphase
      refine ⟨⟨hscene.calls, h.monitor.session, h.monitor.told⟩, .inl ⟨⟨h.ended.1, ?_⟩, h.ended.2, ?_⟩⟩
      · rw [RunReport.fault?, hphase]
      · rw [RunReport.fault?, hphase']
    | stuck hhangs hmonitor _ hscene hended =>
      exact ⟨⟨hscene.calls, hmonitor.session, hmonitor.told⟩, .inr ⟨hhangs, hended⟩⟩

/-- A driven browser that refuses every fifth call. -/
private def fifthRefused : Responder Nat := fun t c n =>
  match c with
  | .sleep seconds => ⟨n, some (later t seconds), .value .null⟩
  | _ => ⟨n + 1, some t, if n % 5 = 4 then .raised (.browser false "busy") else .value .null⟩

private theorem fifthRefused_isTimeless : IsTimeless fifthRefused where
  comes t t' c w := by cases c <;> rfl
  reply t t' c w := by cases c <;> rfl
  world t t' c w := by cases c <;> rfl
  wakes t seconds w := rfl
  rested t seconds w := rfl
  still t seconds w := rfl

private def order : RunOptions where
  settings := { projectRoot := ⟨"/", []⟩ }
  seed := 7
  profile := some ⟨"Mozilla/5.0", ⟨1280, 720⟩, "Europe/Berlin", "de-DE"⟩

theorem runs_at_any_pace_refused :
    let script := "// step 1\nawait page.fill('#q', 'ab')\n// step 2\nawait page.click('#buy')"
    IsTimeless fifthRefused ∧ order.controls = [] ∧ (Binary64.zero false).IsNonneg ∧ (Binary64.ofNat 3).IsNonneg ∧
      ∃ r r', runScript fifthRefused (order.atScale (.zero false)) script (.zero false) 0 = .ok r ∧
        runScript fifthRefused (order.atScale (.ofNat 3)) script (.zero false) 0 = .ok r' ∧ r.SameButTimes r' ∧
          r.Returns ∧ r'.Returns := by
  intro script
  have hscale : (Binary64.ofNat 3).IsNonneg := Binary64.isNonneg_ofNat 3
  refine ⟨fifthRefused_isTimeless, rfl, rfl, hscale, ?_⟩
  rcases runs_at_any_pace (o := order) fifthRefused_isTimeless rfl (show (Binary64.zero false).IsNonneg from rfl) hscale
    script (.zero false) (.zero false) 0 with ⟨f, hf, -⟩ | ⟨r, r', hr, hr', hsame, hend⟩
  · have hsetUp : (setUp (order.atScale (.zero false)) script (.zero false) (0 : Nat)).isOk = true := by decide +kernel
    rw [runScript] at hf
    cases h : setUp (order.atScale (.zero false)) script (.zero false) (0 : Nat) with
    | error e => rw [h] at hsetUp; cases hsetUp
    | ok x => rw [h] at hf; cases hf
  · refine ⟨r, r', hr, hr', hsame, ?_⟩
    rcases hend with hend | ⟨⟨t, c, n, hnone⟩, -⟩
    · exact hend
    · have hsome : (fifthRefused t c n).comes.isSome = true := by cases c <;> rfl
      rw [hnone] at hsome
      cases hsome

end BrowserPilot.Rehearsal
