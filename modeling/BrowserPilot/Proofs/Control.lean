import BrowserPilot.Control
import Mathlib.Data.List.Induction

/-!
# Those who wait for a token

Whoever waits for a token is let through at the first moment of rest at which
the token allows it, and nobody is forgotten. The invariant is that a waiter
that is not done stands before its own gate or has a turn (`Sound`). At rest
there are no turns and whoever is left stands before a shut gate, so the
waiters are as if each of them had looked at the token itself (`release`).
-/

namespace BrowserPilot.Control

def Waiter.isReleased (k : Waiter) (c : Control) : Bool :=
  match k with
  | .untilRunning => !c.paused
  | .untilStopped => c.stopped

def release (c : Control) (ws : List (Waiter × Bool)) : List (Waiter × Bool) :=
  ws.map fun x => (x.1, x.2 || x.1.isReleased c)

section
variable {c : Control} {ws : List (Waiter × Bool)} {k : Waiter} {i : Nat} {d : Bool}

theorem release_modify (hi : ws[i]? = some (k, d)) (hk : k.isReleased c = true) :
    release c (ws.modify i fun x => (x.1, true)) = release c ws := by
  apply List.ext_getElem?
  intro j
  simp only [release, List.getElem?_map, List.getElem?_modify]
  by_cases hj : i = j
  · subst hj
    simp [hi, hk]
  · simp [hj]

theorem release_self (h : ∀ (i : Nat) (k : Waiter), ws[i]? = some (k, false) → k.isReleased c = false) :
    release c ws = ws := by
  apply List.ext_getElem?
  intro i
  rw [release, List.getElem?_map]
  cases hi : ws[i]? with
  | none => rfl
  | some x =>
    obtain ⟨k, d⟩ := x
    cases d with
    | true => simp
    | false => simp [h i k hi]

end

namespace Watched

/-! ## Gates -/

section
variable (w : Watched) (k k' : Waiter) (g : Gate)

theorem gate_setGate : (w.setGate k g).gate k' = if k' = k then g else w.gate k' := by
  cases k <;> cases k' <;> rfl

@[simp] theorem waiters_setGate : (w.setGate k g).waiters = w.waiters := by cases k <;> rfl

@[simp] theorem turns_setGate : (w.setGate k g).turns = w.turns := by cases k <;> rfl

@[simp] theorem waiters_openGate : (w.openGate k).waiters = w.waiters := by
  rw [openGate]
  split
  · rfl
  · exact waiters_setGate w k _

theorem isReleased_control : k.isReleased w.control = (w.gate k).isOpen := by
  cases k with
  | untilRunning => exact Bool.not_not _
  | untilStopped => rfl

theorem control_setGate (h : g.isOpen = (w.gate k).isOpen) : (w.setGate k g).control = w.control := by
  cases k with
  | untilRunning => simp [setGate, control, h, gate]
  | untilStopped => simp [setGate, control, h, gate]

theorem control_openGate_running : (w.openGate .untilRunning).control = w.control.resume := by
  rw [openGate]
  split
  · simp_all [control, resume, gate]
  · rfl

theorem control_openGate_stopped : (w.openGate .untilStopped).control = { w.control with stopped := true } := by
  rw [openGate]
  split
  · simp_all [control, gate]
  · rfl

theorem control_apply (c : ControlCall) : (w.apply c).control = w.control.apply c := by
  cases c with
  | pause =>
    rw [apply, Control.apply, pause]
    by_cases h : w.stopped.isOpen = true
    · rw [if_pos h, if_pos (show w.control.stopped = true from h)]
    · rw [if_neg h, if_neg (show ¬ w.control.stopped = true from h)]
      rfl
  | resume => exact control_openGate_running w
  | stop => rw [apply, control_openGate_running, control_openGate_stopped, Control.apply, resume, stop]

theorem waiters_apply (c : ControlCall) : (w.apply c).waiters = w.waiters := by
  cases c with
  | pause =>
    rw [apply]
    split
    · rfl
    · exact waiters_setGate w _ _
  | resume => exact waiters_openGate w _
  | stop => rw [apply, waiters_openGate, waiters_openGate]

end

/-! ## Turns -/

/-- A waiter stands before a gate, or one of the turns is its own. -/
def Awaits (w : Watched) (ts : List Turn) (k : Waiter) (i : Nat) : Prop :=
  i ∈ (w.gate k).queue ∨ .come k i ∈ ts ∨ .goOn k i ∈ ts

/-- Nobody is forgotten, nobody is taken for another kind of waiter, and nobody
stands before an open gate, when the given turns are still to be taken. -/
structure Sound (w : Watched) (ts : List Turn) : Prop where
  sited : ∀ (i : Nat) (k : Waiter), w.waiters[i]? = some (k, false) → w.Awaits ts k i
  known : ∀ (i : Nat) (k : Waiter), w.Awaits ts k i → ∃ d, w.waiters[i]? = some (k, d)
  called : ∀ (i : Nat) (k : Waiter), .goOn k i ∈ ts → (w.gate k).isOpen = true
  free : ∀ k, (w.gate k).isOpen = true → (w.gate k).queue = []

/-- There is nothing left to do. -/
structure Rests (w : Watched) : Prop where
  turns : w.turns = []
  sound : w.Sound []

section
variable {w : Watched} {ts ts' : List Turn} {t : Turn} {k : Waiter} {i : Nat}

/-- A gate and the turns may be changed if each waiter of that gate stays at
the gate or at its turn. -/
theorem Sound.setGate {g : Gate} (h : w.Sound ts)
    (hplace : ∀ i, (i ∈ g.queue ∨ .come k i ∈ ts' ∨ .goOn k i ∈ ts') ↔ w.Awaits ts k i)
    (hothers : ∀ k' i, k' ≠ k → (.come k' i ∈ ts' ↔ .come k' i ∈ ts) ∧ (.goOn k' i ∈ ts' ↔ .goOn k' i ∈ ts))
    (hcalled : ∀ i, .goOn k i ∈ ts' → g.isOpen = true) (hfree : g.isOpen = true → g.queue = []) :
    (w.setGate k g).Sound ts' := by
  have hawaits : ∀ k' i, (w.setGate k g).Awaits ts' k' i ↔ w.Awaits ts k' i := by
    intro k' i
    rw [Awaits, gate_setGate]
    by_cases hk : k' = k
    · subst hk
      rw [if_pos rfl]
      exact hplace i
    · rw [if_neg hk, (hothers k' i hk).1, (hothers k' i hk).2, Awaits]
  constructor
  · intro i k' hi
    rw [waiters_setGate] at hi
    exact (hawaits k' i).mpr (h.sited i k' hi)
  · intro i k' hi
    rw [waiters_setGate]
    exact h.known i k' ((hawaits k' i).mp hi)
  · intro i k' hi
    rw [gate_setGate]
    by_cases hk : k' = k
    · subst hk
      rw [if_pos rfl]
      exact hcalled i hi
    · rw [if_neg hk]
      exact h.called i k' ((hothers k' i hk).2.mp hi)
  · intro k' hopen
    rw [gate_setGate] at hopen ⊢
    by_cases hk : k' = k
    · rw [if_pos hk] at hopen ⊢
      exact hfree hopen
    · rw [if_neg hk] at hopen ⊢
      exact h.free k' hopen

theorem Sound.finish (h : w.Sound (t :: ts)) (ht : t = .come k i ∨ t = .goOn k i) : (w.finish i).Sound ts where
  sited j k' hj := by
    have hij : i ≠ j := by
      intro hij
      subst hij
      simp [Watched.finish] at hj
    have hj' : w.waiters[j]? = some (k', false) := by
      simpa [Watched.finish, List.getElem?_modify, hij] using hj
    have hsite : w.Awaits (t :: ts) k' j := h.sited j k' hj'
    show w.Awaits ts k' j
    cases ht with
    | inl ht => simpa [Awaits, ht, Ne.symm hij] using hsite
    | inr ht => simpa [Awaits, ht, Ne.symm hij] using hsite
  known j k' hj := by
    obtain ⟨d, hd⟩ := h.known j k' (hj.imp id (Or.imp (List.mem_cons_of_mem t) (List.mem_cons_of_mem t)))
    by_cases hij : i = j
    · subst hij
      exact ⟨true, by simp [Watched.finish, hd]⟩
    · exact ⟨d, by simp [Watched.finish, hij, hd]⟩
  called j k' hj := h.called j k' (List.mem_cons_of_mem t hj)
  free := h.free

theorem Sound.queue (h : w.Sound (.come k i :: ts)) (hk : (w.gate k).isOpen = false) :
    (w.setGate k { w.gate k with queue := (w.gate k).queue ++ [i] }).Sound ts := by
  apply h.setGate
  · simp [Awaits, or_assoc]
  · intro k' j hk'
    simp [hk']
  · intro j hj
    exact h.called j k (List.mem_cons_of_mem _ hj)
  · intro hopen
    simp [hk] at hopen

theorem Sound.take (h : w.Sound (t :: ts)) : (w.take t).Sound ts := by
  cases t with
  | come k i =>
    rw [Watched.take]
    by_cases hk : (w.gate k).isOpen = true
    · rw [if_pos hk]
      exact h.finish (.inl rfl)
    · rw [if_neg hk]
      exact h.queue (by simpa using hk)
  | goOn k i => exact h.finish (.inr rfl)

theorem control_take (w : Watched) (t : Turn) : (w.take t).control = w.control := by
  cases t with
  | come k i =>
    rw [take]
    split
    · rfl
    · exact control_setGate w k _ rfl
  | goOn k i => rfl

theorem turns_take (w : Watched) (t : Turn) : (w.take t).turns = w.turns := by
  cases t with
  | come k i =>
    rw [take]
    split
    · rfl
    · exact turns_setGate w k _
  | goOn k i => rfl

/-- Only those are let through whom the token would let through itself. -/
theorem Sound.release_take (h : w.Sound (t :: ts)) :
    release w.control (w.take t).waiters = release w.control w.waiters := by
  cases t with
  | come k i =>
    obtain ⟨d, hd⟩ := h.known i k (.inr (.inl (List.mem_cons_self ..)))
    rw [Watched.take]
    by_cases hk : (w.gate k).isOpen = true
    · rw [if_pos hk]
      exact release_modify hd (by rwa [isReleased_control])
    · rw [if_neg hk, waiters_setGate]
  | goOn k i =>
    -- it does not look at the gate again; the gate has stayed open since it was called
    obtain ⟨d, hd⟩ := h.known i k (.inr (.inr (List.mem_cons_self ..)))
    have hk := h.called i k (List.mem_cons_self ..)
    exact release_modify hd (by rwa [isReleased_control])

theorem Sound.kept (h : w.Sound []) (hi : w.waiters[i]? = some (k, false)) : k.isReleased w.control = false := by
  have hqueue : i ∈ (w.gate k).queue := by simpa [Awaits] using h.sited i k hi
  rw [isReleased_control, Bool.eq_false_iff]
  intro hk
  rw [h.free k hk] at hqueue
  exact absurd hqueue (List.not_mem_nil)

theorem Sound.taken (h : w.Sound ts) :
    (ts.foldl Watched.take w).Sound [] ∧ (ts.foldl Watched.take w).turns = w.turns ∧
      (ts.foldl Watched.take w).control = w.control ∧
      release w.control (ts.foldl Watched.take w).waiters = release w.control w.waiters := by
  induction ts generalizing w with
  | nil => exact ⟨h, rfl, rfl, rfl⟩
  | cons t ts ih =>
    obtain ⟨hsound, hturns, hcontrol, hrelease⟩ := ih h.take
    rw [control_take] at hcontrol hrelease
    exact ⟨hsound, hturns.trans (turns_take w t), hcontrol, hrelease.trans h.release_take⟩

/-- Settling lets through exactly those whom the token lets through. -/
theorem Sound.settle (h : w.Sound w.turns) :
    w.settle.Rests ∧ w.settle.control = w.control ∧ w.settle.waiters = release w.control w.waiters := by
  have hcleared : Sound { w with turns := [] } w.turns := ⟨h.sited, h.known, h.called, h.free⟩
  obtain ⟨hsound, hturns, hcontrol, hrelease⟩ := hcleared.taken
  have hrest := release_self fun _ _ hi => hsound.kept hi
  rw [hcontrol, hrelease] at hrest
  exact ⟨⟨hturns, hsound⟩, hcontrol, hrest.symm⟩

/-! ## Calls -/

theorem Sound.openGate (h : w.Sound w.turns) (k : Waiter) : (w.openGate k).Sound (w.openGate k).turns := by
  rw [Watched.openGate]
  by_cases hk : (w.gate k).isOpen = true
  · rwa [if_pos hk]
  · rw [if_neg hk]
    have hopen : (w.setGate k ⟨true, []⟩).Sound (w.turns ++ (w.gate k).queue.map (.goOn k)) := by
      apply h.setGate
      · intro i
        simp [Awaits, or_comm, or_assoc]
      · intro k' i hk'
        simp [Ne.symm hk']
      · intro i _
        rfl
      · intro _
        rfl
    exact ⟨hopen.sited, hopen.known, hopen.called, hopen.free⟩

theorem Sound.shutGate (h : w.Sound []) (k : Waiter) : (w.shutGate k).Sound [] := by
  apply h.setGate
  · intro i
    rfl
  · simp
  · simp
  · simp

theorem Rests.apply (h : w.Rests) (c : ControlCall) : (w.apply c).Sound (w.apply c).turns := by
  have hw : w.Sound w.turns := by
    rw [h.turns]
    exact h.sound
  cases c with
  | pause =>
    rw [Watched.apply]
    by_cases hs : w.stopped.isOpen = true
    · rwa [if_pos hs]
    · rw [if_neg hs, Watched.shutGate, turns_setGate, h.turns]
      exact h.sound.shutGate .untilRunning
  | resume => exact hw.openGate .untilRunning
  | stop => exact (hw.openGate .untilStopped).openGate .untilRunning

theorem getElem?_start (w : Watched) (k : Waiter) (i : Nat) :
    (w.start k).waiters[i]? = if i = w.waiters.length then some (k, false) else w.waiters[i]? := by
  rw [start]
  by_cases h : i < w.waiters.length
  · rw [List.getElem?_append_left h, if_neg (by omega)]
  · by_cases heq : i = w.waiters.length
    · rw [if_pos heq, heq, List.getElem?_concat_length]
    · rw [if_neg heq, List.getElem?_eq_none (by simp; omega), List.getElem?_eq_none (by omega)]

theorem Rests.start (h : w.Rests) (k : Waiter) : (w.start k).Sound (w.start k).turns := by
  have hawaits : ∀ k' i, (w.start k).Awaits (w.start k).turns k' i ↔ w.Awaits [] k' i ∨ k' = k ∧ i = w.waiters.length := by
    intro k' i
    have hgate : (w.start k).gate k' = w.gate k' := rfl
    rw [Awaits, hgate]
    simp [Awaits, Watched.start, h.turns]
  constructor
  · intro i k' hi
    rw [getElem?_start] at hi
    rw [hawaits]
    by_cases hnew : i = w.waiters.length
    · rw [if_pos hnew] at hi
      cases hi
      exact .inr ⟨rfl, hnew⟩
    · rw [if_neg hnew] at hi
      exact .inl (h.sound.sited i k' hi)
  · intro i k' hi
    rw [hawaits] at hi
    rw [getElem?_start]
    cases hi with
    | inl hi =>
      obtain ⟨d, hd⟩ := h.sound.known i k' hi
      obtain ⟨hlt, -⟩ := List.getElem?_eq_some_iff.mp hd
      have hold : i ≠ w.waiters.length := by omega
      exact ⟨d, by rw [if_neg hold, hd]⟩
    | inr hi =>
      obtain ⟨rfl, hnew⟩ := hi
      exact ⟨false, if_pos hnew⟩
  · intro i k' hi
    simp [Watched.start, h.turns] at hi
  · exact h.sound.free

end

end Watched

/-! ## Histories -/

/-- What happens to a token at work. -/
inductive Happening where
  | call (c : ControlCall)
  | wait (k : Waiter)
  deriving DecidableEq

namespace Happening

def after (c : Control) : Happening → Control
  | .call x => c.apply x
  | .wait _ => c

def started : Happening → List Waiter
  | .call _ => []
  | .wait k => [k]

theorem stopped_after (c : Control) (x : Happening) : (x.after c).stopped = (c.stopped || decide (x = .call .stop)) := by
  cases x with
  | call call =>
    cases call with
    | pause =>
      simp only [after, apply, pause]
      split <;> simp
    | resume => simp [after, apply, resume]
    | stop => simp [after, apply, stop]
  | wait k => simp [after]

theorem paused_after (c : Control) (x : Happening) : (x.after c).paused = true ↔
    x = .call .pause ∧ c.stopped = false ∨ c.paused = true ∧ x ≠ .call .resume ∧ x ≠ .call .stop := by
  cases x with
  | call call =>
    cases call with
    | pause =>
      by_cases h : c.stopped = true
      · simp [after, apply, pause, h]
      · simp [after, apply, pause, h]
    | resume => simp [after, apply, resume]
    | stop => simp [after, apply, stop]
  | wait k => simp [after]

end Happening

namespace Watched

def happen (w : Watched) : Happening → Watched
  | .call c => w.call c
  | .wait k => w.wait k

def afterAll (hs : List Happening) : Watched := hs.foldl happen {}

def started (hs : List Happening) : List Waiter := hs.flatMap Happening.started

def isDone (w : Watched) (i : Nat) : Bool := w.waiters[i]?.any Prod.snd

section
variable {w : Watched}

theorem Rests.happen (h : w.Rests) (x : Happening) :
    (w.happen x).Rests ∧ (w.happen x).control = x.after w.control ∧
      (w.happen x).waiters = release (x.after w.control) (w.waiters ++ x.started.map fun k => (k, false)) := by
  cases x with
  | call c =>
    obtain ⟨hrests, hcontrol, hwaiters⟩ := (h.apply c).settle
    rw [control_apply] at hcontrol hwaiters
    rw [waiters_apply] at hwaiters
    refine ⟨hrests, hcontrol, ?_⟩
    rw [Happening.started, List.map_nil, List.append_nil]
    exact hwaiters
  | wait k => exact (h.start k).settle

theorem rests_empty : Rests {} where
  turns := rfl
  sound := by
    constructor
    · intro i k hi
      exact absurd hi (by simp)
    · intro i k hi
      cases k <;> simp [Awaits, gate] at hi
    · simp
    · intro k _
      cases k <;> rfl

end

section
variable (hs : List Happening) (x : Happening)

theorem afterAll_snoc : afterAll (hs ++ [x]) = (afterAll hs).happen x := by
  rw [afterAll, List.foldl_append]
  rfl

theorem rests_afterAll : (afterAll hs).Rests := by
  induction hs using List.reverseRecOn with
  | nil => exact rests_empty
  | append_singleton hs x ih =>
    rw [afterAll_snoc]
    exact (ih.happen x).1

theorem control_snoc : (afterAll (hs ++ [x])).control = x.after (afterAll hs).control := by
  rw [afterAll_snoc]
  exact ((rests_afterAll hs).happen x).2.1

theorem waiters_snoc : (afterAll (hs ++ [x])).waiters =
    release (afterAll (hs ++ [x])).control ((afterAll hs).waiters ++ x.started.map fun k => (k, false)) := by
  rw [control_snoc, afterAll_snoc]
  exact ((rests_afterAll hs).happen x).2.2

theorem map_fst_release (c : Control) (ws : List (Waiter × Bool)) : (release c ws).map Prod.fst = ws.map Prod.fst := by
  rw [release, List.map_map]
  rfl

theorem kinds_afterAll : (afterAll hs).waiters.map Prod.fst = started hs := by
  induction hs using List.reverseRecOn with
  | nil => rfl
  | append_singleton hs x ih =>
    rw [waiters_snoc, map_fst_release, List.map_append, ih, List.map_map]
    simp [started, Function.comp_def]

end

/-! ## What becomes of the token -/

/-- The latest pause has not been ended by a resume. -/
def LastPauses (hs : List Happening) : Prop :=
  ∃ before rest, hs = before ++ .call .pause :: rest ∧ .call .resume ∉ rest

theorem lastPauses_snoc {hs : List Happening} {x : Happening} :
    LastPauses (hs ++ [x]) ↔ x = .call .pause ∨ x ≠ .call .resume ∧ LastPauses hs := by
  constructor
  · intro h
    obtain ⟨before, rest, hcut, hno⟩ := h
    cases rest using List.reverseRecOn with
    | nil => exact .inl (List.singleton_inj.mp (List.append_inj' hcut rfl).2)
    | append_singleton rest y =>
      rw [← List.cons_append, ← List.append_assoc] at hcut
      obtain ⟨hhs, hxy⟩ := List.append_inj' hcut rfl
      rw [List.mem_append, List.mem_singleton, not_or] at hno
      refine .inr ⟨?_, before, rest, hhs, hno.1⟩
      rw [List.singleton_inj.mp hxy]
      exact Ne.symm hno.2
  · intro h
    cases h with
    | inl h => exact ⟨hs, [], by rw [h], List.not_mem_nil⟩
    | inr h =>
      obtain ⟨hx, before, rest, hcut, hno⟩ := h
      refine ⟨before, rest ++ [x], by simp [hcut], ?_⟩
      simp [hno, Ne.symm hx]

theorem stopped_iff (hs : List Happening) : (afterAll hs).control.stopped = true ↔ .call .stop ∈ hs := by
  induction hs using List.reverseRecOn with
  | nil => simp [afterAll, control]
  | append_singleton hs x ih =>
    rw [control_snoc, Happening.stopped_after, Bool.or_eq_true, ih, decide_eq_true_eq, List.mem_append, List.mem_singleton,
      eq_comm]

theorem paused_iff (hs : List Happening) :
    (afterAll hs).control.paused = true ↔ .call .stop ∉ hs ∧ LastPauses hs := by
  induction hs using List.reverseRecOn with
  | nil => simp [afterAll, control, LastPauses]
  | append_singleton hs x ih =>
    have hrunning : (afterAll hs).control.stopped = false ↔ .call .stop ∉ hs := by
      rw [← stopped_iff, Bool.not_eq_true]
    rw [control_snoc, Happening.paused_after, ih, hrunning, lastPauses_snoc, List.mem_append, List.mem_singleton, not_or]
    by_cases hp : x = .call .pause
    · subst hp
      grind
    · grind

/-! ## Who is done -/

section
variable {hs : List Happening} {k : Waiter} {i : Nat} {d : Bool}

theorem isDone_of_getElem? (hi : (afterAll hs).waiters[i]? = some (k, d)) : (afterAll hs).isDone i = d := by
  rw [isDone, hi, Option.any_some]

/-- The waiters that there are look at the token at each moment of rest. -/
theorem getElem?_waiters_snoc (hi : (afterAll hs).waiters[i]? = some (k, d)) (x : Happening) :
    (afterAll (hs ++ [x])).waiters[i]? = some (k, d || k.isReleased (afterAll (hs ++ [x])).control) := by
  obtain ⟨hlt, -⟩ := List.getElem?_eq_some_iff.mp hi
  rw [waiters_snoc, release, List.getElem?_map, List.getElem?_append_left hlt, hi, Option.map_some]

theorem getElem?_waiters_wait (hs : List Happening) (k : Waiter) :
    (afterAll (hs ++ [.wait k])).waiters[(started hs).length]? =
      some (k, k.isReleased (afterAll (hs ++ [.wait k])).control) := by
  have hlen : (started hs).length = (afterAll hs).waiters.length := by
    rw [← kinds_afterAll, List.length_map]
  rw [waiters_snoc, release, List.getElem?_map, hlen, Happening.started, List.map_singleton, List.getElem?_concat_length,
    Option.map_some, Bool.false_or]

/-- Who waits is done once the token has been at rest in a way that lets it go
on, be it at once or later. -/
theorem getElem?_waiters (before : List Happening) (k : Waiter) (rest : List Happening) :
    ∃ d, (afterAll (before ++ .wait k :: rest)).waiters[(started before).length]? = some (k, d) ∧
      (d = true ↔ ∃ mid, mid <+: rest ∧ k.isReleased (afterAll (before ++ .wait k :: mid)).control = true) := by
  induction rest using List.reverseRecOn with
  | nil => exact ⟨_, getElem?_waiters_wait before k, by simp⟩
  | append_singleton rest x ih =>
    obtain ⟨d, hd, hiff⟩ := ih
    have hsnoc : before ++ .wait k :: (rest ++ [x]) = (before ++ .wait k :: rest) ++ [x] := by simp
    rw [hsnoc]
    refine ⟨_, getElem?_waiters_snoc hd x, ?_⟩
    rw [Bool.or_eq_true, hiff]
    simp only [List.prefix_concat_iff, or_and_right, exists_or, exists_eq_left, ← hsnoc]
    exact or_comm

theorem isDone_iff (before : List Happening) (k : Waiter) (rest : List Happening) :
    (afterAll (before ++ .wait k :: rest)).isDone (started before).length = true ↔
      ∃ mid, mid <+: rest ∧ k.isReleased (afterAll (before ++ .wait k :: mid)).control = true := by
  obtain ⟨d, hd, hiff⟩ := getElem?_waiters before k rest
  rw [isDone_of_getElem? hd, hiff]

theorem exists_of_isDone (h : (afterAll hs).isDone i = true) : ∃ k, (afterAll hs).waiters[i]? = some (k, true) := by
  rw [isDone] at h
  cases hi : (afterAll hs).waiters[i]? with
  | none => simp [hi] at h
  | some x =>
    obtain ⟨k, d⟩ := x
    have hd : d = true := by simpa [hi] using h
    exact ⟨k, by rw [hd]⟩

theorem isDone_append (h : (afterAll hs).isDone i = true) (more : List Happening) :
    (afterAll (hs ++ more)).isDone i = true := by
  induction more using List.reverseRecOn with
  | nil => rwa [List.append_nil]
  | append_singleton more x ih =>
    obtain ⟨k, hk⟩ := exists_of_isDone ih
    rw [← List.append_assoc, isDone_of_getElem? (getElem?_waiters_snoc hk x), Bool.true_or]

theorem done_of_stop (hstop : .call .stop ∈ hs) : ∀ x ∈ (afterAll hs).waiters, x.2 = true := by
  intro x hx
  obtain ⟨k, d⟩ := x
  cases d with
  | true => rfl
  | false =>
    obtain ⟨i, hi⟩ := List.mem_iff_getElem?.mp hx
    have hkept := (rests_afterAll hs).sound.kept hi
    have hpaused : ¬ (afterAll hs).control.paused = true := by simp [paused_iff, hstop]
    cases k with
    | untilRunning => simp [Waiter.isReleased, hpaused] at hkept
    | untilStopped => simp [Waiter.isReleased, (stopped_iff hs).mpr hstop] at hkept

end

/-- A history of a token up to a moment of rest. The token is stopped if there
was a stop, and paused if there was none and the latest pause has not been
ended. Each waiter for a token that is not paused is done if there was a moment
of rest since its start at which the token was not paused, each waiter for a
stop if there was a stop. Who is done stays done, and a stop leaves nobody
behind. -/
theorem waiters_let_through (hs : List Happening) :
    (afterAll hs).turns = [] ∧ (afterAll hs).waiters.map Prod.fst = started hs ∧
      ((afterAll hs).control.stopped = true ↔ .call .stop ∈ hs) ∧
      ((afterAll hs).control.paused = true ↔ .call .stop ∉ hs ∧ LastPauses hs) ∧
      (∀ before rest, hs = before ++ .wait .untilRunning :: rest →
        ((afterAll hs).isDone (started before).length = true ↔
          ∃ mid, mid <+: rest ∧ (afterAll (before ++ .wait .untilRunning :: mid)).control.paused = false)) ∧
      (∀ before rest, hs = before ++ .wait .untilStopped :: rest →
        ((afterAll hs).isDone (started before).length = true ↔ .call .stop ∈ hs)) ∧
      (∀ i more, (afterAll hs).isDone i = true → (afterAll (hs ++ more)).isDone i = true) ∧
      (.call .stop ∈ hs → ∀ x ∈ (afterAll hs).waiters, x.2 = true) := by
  refine ⟨(rests_afterAll hs).turns, kinds_afterAll hs, stopped_iff hs, paused_iff hs, ?running, ?stopped,
    fun i more h => isDone_append h more, done_of_stop⟩
  case running =>
    intro before rest hcut
    rw [hcut, isDone_iff]
    simp only [Waiter.isReleased, Bool.not_eq_true']
  case stopped =>
    intro before rest hcut
    rw [hcut, isDone_iff]
    simp only [Waiter.isReleased, stopped_iff]
    constructor
    · intro h
      obtain ⟨mid, hmid, hstop⟩ := h
      have hprefix : before ++ .wait .untilStopped :: mid <+: before ++ .wait .untilStopped :: rest :=
        (List.prefix_append_right_inj before).mpr (List.cons_prefix_cons.mpr ⟨rfl, hmid⟩)
      exact hprefix.subset hstop
    · intro h
      exact ⟨rest, List.prefix_refl rest, h⟩

/-- Two pauses with a resume between them, and a stop in the second one. -/
def twoPauses : List Happening :=
  [.call .pause, .wait .untilRunning, .call .resume, .call .pause, .wait .untilRunning, .wait .untilStopped,
    .call .stop, .call .pause]

theorem waiters_let_through_twoPauses : (afterAll twoPauses).control.paused = false ∧
    (afterAll (twoPauses.take 6)).isDone 0 = true ∧ (afterAll (twoPauses.take 6)).isDone 2 = false ∧
      ∀ x ∈ (afterAll twoPauses).waiters, x.2 = true := by
  obtain ⟨-, -, -, hpaused, -, -, -, hall⟩ := waiters_let_through twoPauses
  obtain ⟨-, -, -, -, hrunning, hstopped, -, -⟩ := waiters_let_through (twoPauses.take 6)
  refine ⟨?_, ?_, ?_, hall (by decide)⟩
  · rw [Bool.eq_false_iff, ne_eq, hpaused]
    exact fun h => h.1 (by decide)
  · exact (hrunning [.call .pause] [.call .resume, .call .pause, .wait .untilRunning, .wait .untilStopped] rfl).mpr
      ⟨[.call .resume], by decide, by decide⟩
  · rw [Bool.eq_false_iff, ne_eq]
    have hiff := hstopped [.call .pause, .wait .untilRunning, .call .resume, .call .pause, .wait .untilRunning] [] rfl
    exact fun h => absurd (hiff.mp h) (by decide)

end Watched

end BrowserPilot.Control
