import BrowserPilot.Browser.Lifecycle
import BrowserPilot.Rehearsal.Performance

/-!
# Starting and stopping

What holds once work has ended, however its calls are answered. A browser that
was closed holds nothing any more, and one that could not be started is closed.
-/

namespace BrowserPilot

/-! ## Work that ends -/

namespace Program

variable {α β : Type}

/-- Work that ends does so in this way, however its calls are answered. -/
def Ensures (P : Browser → Except Fault α → Prop) : Program α → Prop
  | .done b r => P b r
  | .ask _ _ next => ∀ reply, (next reply).Ensures P

theorem Ensures.mono {P Q : Browser → Except Fault α → Prop} (hPQ : ∀ b r, P b r → Q b r) :
    ∀ {p : Program α}, p.Ensures P → p.Ensures Q
  | .done b r, h => hPQ b r h
  | .ask _ _ _, h => fun reply => Ensures.mono hPQ (h reply)

theorem Ensures.andThen {P : Browser → Except Fault α → Prop} {Q : Browser → Except Fault β → Prop}
    {f : Browser → α → Program β} (hok : ∀ b a, P b (.ok a) → (f b a).Ensures Q)
    (herror : ∀ b e, P b (.error e) → Q b (.error e)) : ∀ {p : Program α}, p.Ensures P → (p.andThen f).Ensures Q
  | .done b (.ok a), h => hok b a h
  | .done b (.error e), h => herror b e h
  | .ask _ _ _, h => fun reply => Ensures.andThen hok herror (h reply)

theorem Ensures.orElse {P Q : Browser → Except Fault α → Prop} {f : Browser → Fault → Program α}
    (hok : ∀ b a, P b (.ok a) → Q b (.ok a)) (herror : ∀ b e, P b (.error e) → (f b e).Ensures Q) :
    ∀ {p : Program α}, p.Ensures P → (p.orElse f).Ensures Q
  | .done b (.ok a), h => hok b a h
  | .done b (.error e), h => herror b e h
  | .ask _ _ _, h => fun reply => Ensures.orElse hok herror (h reply)

theorem ensures_trivial : ∀ (p : Program α), p.Ensures fun _ _ => True
  | .done _ _ => trivial
  | .ask _ _ next => fun reply => ensures_trivial (next reply)

theorem Ensures.play {W : Type} (respond : Rehearsal.Responder W) {P : Browser → Except Fault α → Prop} :
    ∀ {p : Program α} {t : Binary64} {w : W} {e : Rehearsal.Ending α W}, p.Ensures P →
      (Rehearsal.play respond p t w).ending = some e → P e.browser e.result
  | .done b r, t, w, e, h, he => by
    cases he
    exact h
  | .ask b c next, t, w, e, h, he => by
    unfold Rehearsal.play at he
    simp only at he
    split at he
    · cases he
    · exact Ensures.play respond (h _) he

end Program

namespace Browser

open Work

/-! ## Closing -/

structure IsClosed (b : Browser) : Prop where
  driver : b.isStarted = false
  process : b.isRunning = false
  context : b.isLaunched = false

/-- Work that ends, if it does, with a browser changed in one way and no fault. -/
def Does (w : Work Unit) (b b' : Browser) : Prop := (w b).Ensures fun c r => c = b' ∧ r = .ok ()

section
variable {b b₁ b₂ : Browser} {v w : Work Unit}

theorem Does.andThen (hv : Does v b b₁) (hw : Does w b₁ b₂) : Does (do v; w) b b₂ :=
  Program.Ensures.andThen (fun _ _ h => h.1 ▸ hw) (fun _ _ h => nomatch h.2) hv

theorem does_ite {q : Prop} [Decidable q] (hv : q → Does v b b₁) (hw : ¬q → Does w b b₁) : Does (if q then v else w) b b₁ := by
  split
  · rename_i hq
    exact hv hq
  · rename_i hq
    exact hw hq

theorem does_pure : Does (pure ()) b b := ⟨rfl, rfl⟩

theorem does_modify (f : Browser → Browser) : Does (Work.modify f) b (f b) := ⟨rfl, rfl⟩

theorem does_ignoreFaults (c : Call) : Does (ignoreFaults (tell c)) b b := by
  intro reply
  cases reply <;> exact ⟨rfl, rfl⟩

end

theorem closePages_does (b : Browser) : ∀ l : List (String × Page), Does (closePages l) b b
  | [] => does_pure
  | _ :: rest => (does_ignoreFaults _).andThen (closePages_does b rest)

theorem closeContext_does (b : Browser) : Does closeContext b { b with isLaunched := false } := by
  refine does_ite (fun _ => (does_modify _).andThen (does_ite (fun _ => ?_) fun _ => ?_)) fun hb => ?_
  · exact (does_ignoreFaults _).andThen (does_ignoreFaults _)
  · exact does_ignoreFaults _
  · have he : { b with isLaunched := false } = b := by rw [← Bool.eq_false_iff.mpr hb]
    rw [he]
    exact does_pure

theorem closeProcess_does (b : Browser) : Does closeProcess b { b with isRunning := false } := by
  refine does_ite (fun _ => (does_modify _).andThen (does_ignoreFaults _)) fun hb => ?_
  have he : { b with isRunning := false } = b := by rw [← Bool.eq_false_iff.mpr hb]
  rw [he]
  exact does_pure

theorem stopDriver_does (b : Browser) : Does stopDriver b { b with isStarted := false } := by
  refine does_ite (fun _ => (does_modify _).andThen (does_ignoreFaults _)) fun hb => ?_
  have he : { b with isStarted := false } = b := by rw [← Bool.eq_false_iff.mpr hb]
  rw [he]
  exact does_pure

/-- **Closing always closes**, whatever fails on the way. -/
theorem close_ensures (b : Browser) : (close b).Ensures fun b' r => b'.IsClosed ∧ r = .ok () := by
  by_cases hb : (b.isStarted || b.isRunning || b.isLaunched) = true
  · have h : Does close b { b with pages := [], isLaunched := false, isRunning := false, isStarted := false } := by
      refine does_ite (fun _ => ?_) fun hn => absurd hb hn
      refine (does_modify _).andThen ((closePages_does _ _).andThen ?_)
      exact (closeContext_does _).andThen ((closeProcess_does _).andThen (stopDriver_does _))
    exact h.mono fun b' r h => ⟨h.1 ▸ ⟨rfl, rfl, rfl⟩, h.2⟩
  · have h : Does close b b := does_ite (fun hn => absurd hn hb) fun _ => does_pure
    have hclosed : b.IsClosed := by
      simp only [Bool.or_eq_true, not_or, Bool.not_eq_true] at hb
      exact ⟨hb.1.1, hb.1.2, hb.2⟩
    exact h.mono fun b' r h => ⟨h.1 ▸ hclosed, h.2⟩

theorem IsClosed.close_eq {b : Browser} (h : b.IsClosed) : close b = .done b (.ok ()) := by
  change (if (b.isStarted || b.isRunning || b.isLaunched) = true then _ else pure () : Work Unit) b = _
  rw [h.driver, h.process, h.context]
  rfl

/-! ## Starting -/

/-- **A failed launch leaves nothing behind**: the fault says that the session
could not be started, and what was started is given back. -/
theorem launch_ensures {b : Browser} (hb : b.IsClosed) (profile : Profile) :
    (launch (some profile) b).Ensures fun b' r => ∀ f, r = .error f →
      (∃ message, f = .sessionInit message) ∧ b'.IsClosed := by
  change ((if b.isStarted = true then raise alreadyLaunched else _ : Work Profile) b).Ensures _
  rw [hb.driver, if_neg Bool.false_ne_true]
  change ((Program.orElse _ (startAll _ _ _ _)).andThen _).Ensures _
  refine Program.Ensures.andThen (P := fun b' r => ∀ f, r = .error f →
    (∃ message, f = .sessionInit message) ∧ b'.IsClosed) ?_ (fun _ _ h f hf => h f (congrArg _ (Except.error.inj hf))) ?_
  · intro b' u _ f hf
    cases hf
  · refine Program.Ensures.orElse (P := fun _ _ => True) ?_ ?_ (Program.ensures_trivial _)
    · intro b' u _ f hf
      cases hf
    · intro b' e _
      refine Program.Ensures.andThen (P := fun b' r => b'.IsClosed ∧ r = .ok ()) ?_ ?_ (close_ensures b')
      · intro b₂ u h f hf
        exact ⟨⟨_, (Except.error.inj hf).symm⟩, h.1⟩
      · exact fun _ _ h => nomatch h.2

end Browser

end BrowserPilot
