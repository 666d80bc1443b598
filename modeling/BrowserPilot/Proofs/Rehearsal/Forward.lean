import BrowserPilot.Proofs.Numeric.Order
import BrowserPilot.Proofs.Rehearsal.LaunchFailure
import Mathlib.Data.List.TakeWhile

/-!
# Time goes forward

As long as no reply comes before its call, nothing happens before the time at
which a run begins or after its end, whatever is answered and wherever the run
gets stuck.
-/

namespace BrowserPilot.Rehearsal

variable {W : Type}

/-- No reply comes before its call. What is not a number is no time. -/
def IsForward (respond : Responder W) : Prop :=
  ∀ t c w, t.le t = true → ∀ t' ∈ (respond t c w).comes, t.le t' = true

/-! ## Work -/

/-- Nothing in a performance happens before it begins, and no call is made after its end. -/
structure Performance.Since {α : Type} (t : Binary64) (p : Performance α W) : Prop where
  checkpoints : ∀ c ∈ p.checkpoints, t.le c.time = true
  ending : ∀ e ∈ p.ending, t.le e.time = true
  last : ∀ e ∈ p.ending, ∀ c ∈ p.checkpoints, c.time.le e.time = true

def Scene.Since (t₀ : Binary64) (s : Scene W) : Prop := ∀ c ∈ s.calls, t₀.le c.1 = true

def Scene.Within (t₀ t : Binary64) (s : Scene W) : Prop := ∀ c ∈ s.calls, t₀.le c.1 = true ∧ c.1.le t = true

/-- A turn that is under way at a time, in a run that has begun at another. -/
structure Turn.Since (t₀ t : Binary64) (u : Turn (Scene W)) : Prop where
  calls : u.calls = []
  after : ∀ e ∈ u.ending, t₀.le e.1 = true ∧ u.after.Within t₀ e.1
  stalled : u.after.Since t₀
  cutAt : ∀ t', t.le t' = true → (u.cutAt t').Within t₀ t'

theorem Scene.mem_note {s : Scene W} {cs : List (Checkpoint W)} {c : Binary64 × Call} (h : c ∈ (s.note cs).calls) :
    c ∈ s.calls ∨ ∃ d ∈ cs, d.time = c.1 := by
  rcases List.mem_append.mp h with h | h
  · exact .inl h
  · obtain ⟨d, hd, rfl⟩ := List.mem_map.mp h
    exact .inr ⟨d, hd, rfl⟩

theorem Turn.Since.later {t₀ t t' : Binary64} {u : Turn (Scene W)} (h : u.Since t₀ t) (ht : t.le t' = true) :
    u.Since t₀ t' :=
  ⟨h.calls, h.after, h.stalled, fun _ ht' => h.cutAt _ (Binary64.le_trans ht ht')⟩

section
variable {α : Type} {t₀ t t' : Binary64} {s : Scene W} {p : Performance α W}

theorem Scene.Within.since (h : s.Within t₀ t) : s.Since t₀ := fun c hc => (h c hc).1

theorem Scene.Within.later (h : s.Within t₀ t) (ht : t.le t' = true) : s.Within t₀ t' :=
  fun c hc => ⟨(h c hc).1, Binary64.le_trans (h c hc).2 ht⟩

theorem Scene.Since.note (h : s.Since t₀) {cs : List (Checkpoint W)} (hcs : ∀ c ∈ cs, t₀.le c.time = true) :
    (s.note cs).Since t₀ := by
  intro c hc
  obtain hc | ⟨d, hd, heq⟩ := Scene.mem_note hc
  · exact h c hc
  · exact heq ▸ hcs d hd

theorem Scene.Within.note (h : s.Within t₀ t) {cs : List (Checkpoint W)}
    (hcs : ∀ c ∈ cs, t₀.le c.time = true ∧ c.time.le t = true) : (s.note cs).Within t₀ t := by
  intro c hc
  obtain hc | ⟨d, hd, heq⟩ := Scene.mem_note hc
  · exact h c hc
  · exact heq ▸ hcs d hd

variable (ht : t₀.le t = true) (hp : p.Since t)
include ht hp

theorem Scene.Since.after (h : s.Since t₀) : (s.after p).Since t₀ := by
  have hnote := h.note fun c hc => Binary64.le_trans ht (hp.checkpoints c hc)
  unfold Scene.after
  split
  · exact hnote
  · exact hnote
  · exact h

theorem Scene.Within.after (h : s.Within t₀ t) {e : Ending α W} (he : p.ending = some e) :
    (s.after p).Within t₀ e.time := by
  have hpast := h.later (hp.ending e he)
  simp only [Scene.after, he]
  exact hpast.note fun c hc => ⟨Binary64.le_trans ht (hp.checkpoints c hc), hp.last e he c hc⟩

theorem Scene.Within.cutAt (h : s.Within t₀ t) (ht' : t.le t' = true) : (s.cutAt p t').Within t₀ t' := by
  have hpast := h.later ht'
  unfold Scene.cutAt
  dsimp only
  split
  · refine hpast.note fun c hc => ⟨?_, ?_⟩
    · exact Binary64.le_trans ht (hp.checkpoints c ((List.takeWhile_sublist _).subset hc))
    · exact List.mem_takeWhile_imp (p := fun c : Checkpoint W => c.time.le t') hc
  · exact hpast

end

section
variable {respond : Responder W} (hr : IsForward respond)
include hr

theorem play_since {α : Type} (x : Program α) : ∀ {t : Binary64} (w : W), t.le t = true → (play respond x t w).Since t := by
  induction x with
  | done b result =>
    intro t w h
    simp only [play]
    exact ⟨List.forall_mem_nil _, fun _ he => Option.mem_some.mp he ▸ h, fun _ _ => List.forall_mem_nil _⟩
  | ask b c next ih =>
    intro t w h
    have hreply := hr t c w h
    simp only [play]
    cases hc : (respond t c w).comes with
    | none => exact ⟨List.forall_mem_singleton.mpr h, by rintro _ ⟨⟩, by rintro _ ⟨⟩⟩
    | some t' =>
      have ht := hreply t' hc
      have hrest := ih (respond t c w).reply (respond t c w).world (Binary64.le_self_of_le ht)
      refine ⟨List.forall_mem_cons.mpr ⟨h, fun d hd => ?_⟩, fun e he => ?_, fun e he => List.forall_mem_cons.mpr ⟨?_, ?_⟩⟩
      · exact Binary64.le_trans ht (hrest.checkpoints d hd)
      · exact Binary64.le_trans ht (hrest.ending e he)
      · exact Binary64.le_trans ht (hrest.ending e he)
      · exact hrest.last e he

theorem turnOf_since {α : Type} (work : Work α) {t₀ t : Binary64} {s : Scene W} (result : α → Result)
    (ht : t₀.le t = true) (hs : s.Within t₀ t) : (turnOf respond work t s result).Since t₀ t := by
  have hp : (s.play respond work t).Since t := play_since hr (work s.browser) s.world (Binary64.le_self_of_le ht)
  refine ⟨rfl, fun x hx => ?_, hs.since.after ht hp, fun t' ht' => hs.cutAt ht hp ht'⟩
  obtain ⟨e, he, rfl⟩ := Option.map_eq_some_iff.mp hx
  exact ⟨Binary64.le_trans ht (hp.ending e he), hs.after ht hp he⟩

end

/-! ## What happens on a stage -/

/-- What a stage keeps through each thing that happens on it. -/
structure Stage.Kept {S : Type} (troupe : Troupe S) (K : Stage S → Prop) : Prop where
  tell : ∀ {s}, K s → ∀ signal, K (s.tell signal)
  takeUp : ∀ {s}, K s → ∀ r, K ({ s with taken := s.taken + 1 }.takeUp troupe r)
  happen : ∀ {s}, K s → ∀ {t c}, s.coming = some (t, c) → K (s.happen t c)

namespace Stage.Kept

variable {S : Type} {troupe : Troupe S} {K : Stage S → Prop} (hK : Stage.Kept troupe K)
include hK

theorem takeUpAll {s : Stage S} (h : K s) : K (s.takeUpAll troupe) := by
  unfold Stage.takeUpAll
  generalize s.monitor.requests.drop s.taken = rs
  induction rs generalizing s with
  | nil => exact h
  | cons r rs ih => exact ih (hK.takeUp h r.2)

theorem turn {s : Stage S} (h : K s) : K (s.turn troupe) := by
  unfold Stage.turn
  split
  · exact hK.takeUpAll (hK.tell h .turn)
  · exact h

theorem advance (fuel : Nat) : ∀ {s : Stage S}, K s → K (s.advance troupe fuel).1 := by
  induction fuel with
  | zero => exact fun h => h
  | succ fuel ih =>
    intro s h
    unfold Stage.advance
    split
    · exact h
    · split
      · split
        · exact ih (hK.turn h)
        · exact h
      · rename_i t c hc
        split
        · exact ih (hK.turn h)
        · exact ih (hK.happen h hc)

/-- **What each thing that happens keeps, a command keeps.** -/
theorem command {s : Stage S} (h : K s) (c : Command) : K (s.command troupe c).1 := by
  unfold Stage.command
  refine hK.advance _ (hK.takeUpAll ?_)
  cases c with
  | run => exact hK.tell h .start
  | fail reason => exact hK.tell h (.fail reason)

end Stage.Kept

/-! ## Stages -/

/-- Nothing on a stage has happened before a time, nor is anything noted that is still to come. -/
structure Stage.Since (t₀ : Binary64) (s : Stage (Scene W)) : Prop where
  time : t₀.le s.time = true
  scene : s.scene.Within t₀ s.time
  running : ∀ u ∈ s.running, u.Since t₀ s.time

namespace Stage

section
variable {S : Type} {s : Stage S}

theorem earlier_eq_some {a b : Option (Binary64 × Coming S)} {x : Binary64 × Coming S} (h : earlier a b = some x) :
    a = some x ∨ b = some x := by
  unfold earlier at h
  split at h
  · exact .inr h
  · exact .inl h
  · split at h
    · exact .inr h
    · exact .inl h

/-- Calls on the monitor are no matter of the scene or of the work under way. -/
theorem tell_interruptions (s : Stage S) (calls : List (Binary64 × Interruption)) :
    (calls.foldl (fun s c => { s with time := s.time.greatest c.1 }.tell c.2.signal) s).scene = s.scene ∧
      (calls.foldl (fun s c => { s with time := s.time.greatest c.1 }.tell c.2.signal) s).running = s.running := by
  induction calls generalizing s with
  | nil => exact ⟨rfl, rfl⟩
  | cons c calls ih => exact ih _

theorem coming_workEnd {t : Binary64} {after : S} {o : Outcome} (h : s.coming = some (t, .workEnd after o)) :
    ∃ u ∈ s.running, ∃ e ∈ u.ending, e.1 = t ∧ u.after = after := by
  rcases earlier_eq_some h with h | h
  · rcases earlier_eq_some h with h | h
    · obtain ⟨u, hu, h⟩ := Option.bind_eq_some_iff.mp h
      obtain ⟨e, he, h⟩ := Option.map_eq_some_iff.mp h
      cases h
      exact ⟨u, hu, e, he, rfl, rfl⟩
    · obtain ⟨_, _, h⟩ := Option.map_eq_some_iff.mp h
      cases h
  · split at h <;> cases h

end

section
variable {respond : Responder W} (hr : IsForward respond) {t₀ : Binary64} {s : Stage (Scene W)}

theorem Since.cut (h : s.Since t₀) : s.cut.Since t₀ := by
  unfold Stage.cut
  split
  · rename_i u hu
    exact ⟨h.time, (h.running u hu).cutAt _ (Binary64.le_self_of_le h.time), by rintro _ ⟨⟩⟩
  · exact ⟨h.time, h.scene, h.running⟩

theorem Since.stalled (h : s.Since t₀) : s.stalled.Since t₀ := by
  unfold Stage.stalled
  split
  · rename_i u hu
    exact (h.running u hu).stalled
  · exact h.scene.since

theorem Since.later (h : s.Since t₀) {t : Binary64} (ht : s.time.le t = true) : Since t₀ { s with time := t } :=
  ⟨Binary64.le_trans h.time ht, h.scene.later ht, fun u hu => (h.running u hu).later ht⟩

theorem Since.happen (h : s.Since t₀) {t : Binary64} {c : Coming (Scene W)} (hc : s.coming = some (t, c)) :
    (s.happen t c).Since t₀ := by
  have hself := Binary64.le_self_of_le h.time
  have hlater := h.later (Binary64.le_greatest hself t)
  cases c with
  | workEnd after o =>
    obtain ⟨u, hu, e, he, rfl, rfl⟩ := coming_workEnd hc
    obtain ⟨htime, hafter⟩ := (h.running u hu).after e he
    have hscene := hafter.later (Binary64.le_greatest_right hself (Binary64.le_self_of_le htime))
    unfold Stage.happen
    dsimp only
    split
    · exact ⟨hlater.time, hscene, by rintro _ ⟨⟩⟩
    · exact ⟨hlater.time, hscene, by rintro _ ⟨⟩⟩
  | timerEnd => exact ⟨hlater.time, hlater.scene, hlater.running⟩
  | interruption c rest => exact ⟨hlater.time, hlater.scene, hlater.running⟩

include hr

theorem Since.takeUp (h : s.Since t₀) (r : Request) : (s.takeUp (browserTroupe respond) r).Since t₀ := by
  cases r with
  | perform a =>
    have hturn := turnOf_since hr (Browser.perform a) id h.time h.scene
    exact ⟨h.time, h.scene, fun _ hu => Option.mem_some.mp hu ▸ hturn⟩
  | sleep seconds =>
    refine ⟨h.time, fun c hc => ?_, h.running⟩
    rcases List.mem_append.mp hc with hc | hc
    · exact h.scene c hc
    · rw [List.mem_singleton.mp hc]
      exact ⟨h.time, Binary64.le_self_of_le h.time⟩
  | grace seconds => exact ⟨h.time, h.scene, h.running⟩
  | closeBrowser =>
    have hcut := h.cut
    have hturn := turnOf_since hr Browser.close (fun _ => .nothing) hcut.time hcut.scene
    exact ⟨hcut.time, hcut.scene, fun _ hu => Option.mem_some.mp hu ▸ hturn⟩

/-- **Nothing happens on a stage before it begins.** -/
theorem since_kept : Stage.Kept (browserTroupe respond) (Stage.Since (W := W) t₀) where
  tell h _ := ⟨h.time, h.scene, h.running⟩
  takeUp {s} h := Since.takeUp hr (s := { s with taken := s.taken + 1 }) ⟨h.time, h.scene, h.running⟩
  happen h := h.happen

end

end Stage

/-! ## Runs -/

/-- Nothing in a run happens before a time, and no call is made after its end. -/
structure RunReport.Since (t₀ : Binary64) (r : RunReport W) : Prop where
  scene : r.scene.Since t₀
  ended : ∀ t ∈ r.ended, t₀.le t = true ∧ r.scene.Within t₀ t

section
variable {respond : Responder W} (hr : IsForward respond) {t₀ : Binary64} {s : Stage (Scene W)}
include hr

theorem playOut_since (h : s.Since t₀) (c : Command) : (playOut respond c s).Since t₀ := by
  have hcommand := (Stage.since_kept hr).command h c
  unfold playOut
  generalize s.command (browserTroupe respond) c = x at hcommand
  obtain ⟨s, b⟩ := x
  cases b with
  | false => exact ⟨hcommand.stalled, by rintro _ ⟨⟩⟩
  | true =>
    have htime := hcommand.time
    have hclose : (s.scene.play respond Browser.close s.time).Since s.time :=
      play_since hr _ _ (Binary64.le_self_of_le htime)
    refine ⟨hcommand.scene.since.after htime hclose, fun t ht => ?_⟩
    obtain ⟨e, he, rfl⟩ := Option.map_eq_some_iff.mp ht
    exact ⟨Binary64.le_trans htime (hclose.ending e he), hcommand.scene.after htime hclose he⟩

/-- **Nothing happens in a run before it begins**, and nothing after its end. -/
theorem playRun_since (h : s.Since t₀) (hidle : s.IsIdle) (profile : Profile) : (playRun respond profile s).Since t₀ := by
  have hlaunch : (s.scene.play respond (Browser.launch (some profile)) s.time).Since s.time :=
    play_since hr _ _ (Binary64.le_self_of_le h.time)
  obtain ⟨hscene, hrunning⟩ := s.tell_interruptions (interruptionsBefore
    ((s.scene.play respond (Browser.launch (some profile)) s.time).ending.map (·.time)) s.interruptions).1
  have hclosed : ∀ e ∈ (s.scene.play respond (Browser.launch (some profile)) s.time).ending, ∀ f, e.result = .error f →
      e.browser.IsClosed := fun e he f hf => ((Browser.launch_ensures hidle.browser profile).play respond he f hf).2
  unfold playRun
  generalize s.scene.play respond (Browser.launch (some profile)) s.time = p at hlaunch hscene hrunning hclosed
  dsimp only
  generalize (interruptionsBefore (p.ending.map (·.time)) s.interruptions).1.foldl
    (fun s c => { s with time := s.time.greatest c.1 }.tell c.2.signal) s = s₁ at hscene hrunning
  rw [hscene]
  have hnone : ∀ {t}, ∀ u ∈ s₁.running, u.Since t₀ t := by
    rw [hrunning, hidle.running]
    rintro _ _ ⟨⟩
  split
  · exact ⟨h.scene.since.after h.time hlaunch, by rintro _ ⟨⟩⟩
  · rename_i e he
    have htime := Binary64.le_trans h.time (hlaunch.ending e he)
    have hafter := h.scene.after h.time hlaunch he
    split
    · exact playOut_since hr (s := { s₁ with time := e.time, scene := s.scene.after p, interruptions := _ })
        ⟨htime, hafter, hnone⟩ .run
    · -- a failed launch leaves nothing to close
      rename_i f hf
      have hbrowser : (s.scene.after p).browser.IsClosed := by
        simp only [Scene.after, he]
        exact hclosed e he f hf
      rw [play_close respond hbrowser, after_close]
      exact playOut_since hr (s := { s₁ with time := e.time, scene := s.scene.after p, interruptions := _ })
        ⟨htime, hafter, hnone⟩ _

end

end BrowserPilot.Rehearsal
