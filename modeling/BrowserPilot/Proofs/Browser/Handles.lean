import BrowserPilot.Proofs.Browser.Lifecycle

/-!
# The handles of a browser

A browser is started, closed and asked for pages in any order, and any of its
calls may fail. Driver, process and context are taken and given back in turn,
and what is held is what the browser knows of.
-/

namespace BrowserPilot

def Reply.isFault : Reply → Bool
  | .raised _ => true
  | _ => false

namespace Browser

/-! ## Operations and their history -/

inductive Operation where
  | launch (profile : Option Profile)
  | close
  | openPage (id : String)
  | closePage (id : String)

def Operation.work : Operation → Work (Option Page)
  | .launch profile => do
    let _ ← Browser.launch profile
    pure none
  | .close => do
    Browser.close
    pure none
  | .openPage id => do
    let page ← Browser.openPage id
    pure (some page)
  | .closePage id => do
    Browser.closePage id
    pure none

/-- Something that happens to a browser: a call is answered, with the browser as
it is kept at the call, or an operation ends. -/
inductive Entry where
  | answered (browser : Browser) (call : Call) (reply : Reply)
  | ended (op : Operation) (result : Except Fault (Option Page))

namespace Entry

def call? : Entry → Option Call
  | answered _ c _ => some c
  | ended _ _ => none

def hasFailed : Entry → Bool
  | answered _ _ reply => reply.isFault
  | ended _ _ => false

end Entry

end Browser

abbrev Respond := List Browser.Entry → Call → Reply

structure Program.Finish (α : Type) where
  history : List Browser.Entry
  browser : Browser
  result : Except Fault α

def Program.perform {α : Type} (respond : Respond) : Program α → List Browser.Entry → Finish α
  | .done b r, h => ⟨h, b, r⟩
  | .ask b c next, h => (next (respond h c)).perform respond (h ++ [.answered b c (respond h c)])

namespace Browser

structure Usage where
  browser : Browser
  history : List Entry := []

namespace Usage

def after (respond : Respond) (u : Usage) (op : Operation) : Usage :=
  let f := (op.work u.browser).perform respond u.history
  ⟨f.browser, f.history ++ [.ended op f.result]⟩

def afterAll (respond : Respond) (u : Usage) (ops : List Operation) : Usage := ops.foldl (Usage.after respond) u

end Usage

/-! ## Handles -/

inductive Handle where
  | driver | process | context

namespace Handle

def isHeld (b : Browser) : Handle → Bool
  | driver => b.isStarted
  | process => b.isRunning
  | context => b.isLaunched

/-- Whether a handle is taken or, in the attempt at least, given back. The
context counts as taken when the launch has succeeded. -/
def move? : Handle → Entry → Option Bool
  | driver, .answered _ .start reply => if reply.isFault then none else some true
  | driver, .answered _ .stop _ => some false
  | process, .answered _ (.launch _) reply => if reply.isFault then none else some true
  | process, .answered _ .closeBrowser _ => some false
  | context, .ended (.launch _) (.ok _) => some true
  | context, .answered _ .closeContext _ => some false
  | _, _ => none

end Handle

/-- Whether a handle is held after some moves. Nothing if it has been taken while
it was held or given back while it was not. -/
def heldAfter (held : Bool) : List Bool → Option Bool
  | [] => some held
  | move :: moves => if move = held then none else heldAfter move moves

theorem heldAfter_append : ∀ (held : Bool) (moves later : List Bool),
    heldAfter held (moves ++ later) = (heldAfter held moves).bind (heldAfter · later)
  | _, [], _ => rfl
  | held, move :: moves, later => by
    simp only [List.cons_append, heldAfter]
    split
    · rfl
    · exact heldAfter_append move moves later

/-- A handle that was not held has been taken as often as given back, once more if it is held. -/
theorem count_of_heldAfter : ∀ {moves : List Bool} {held held' : Bool}, heldAfter held moves = some held' →
    moves.count true + held.toNat = moves.count false + held'.toNat
  | [], _, _, h => by
    cases h
    rfl
  | move :: moves, held, held', h => by
    simp only [heldAfter] at h
    split at h
    · cases h
    · rename_i hne
      have ih := count_of_heldAfter h
      cases held <;> cases move <;> simp_all <;> omega

/-- Pages are there only with a context, a context only with a process, and a process only with the driver. -/
structure IsSound (b : Browser) : Prop where
  pages : b.pages ≠ [] → b.isLaunched = true
  context : b.isLaunched = true → b.isRunning = true
  process : b.isRunning = true → b.isStarted = true

def Entry.IsSound : Entry → Prop
  | answered b _ _ => b.IsSound
  | ended _ _ => True

/-- What happens between two browsers: all handles are moved in turn, and the browser is sound at every call. -/
structure Stretch (b : Browser) (l : List Entry) (b' : Browser) : Prop where
  moves : ∀ k : Handle, heldAfter (k.isHeld b) (l.filterMap k.move?) = some (k.isHeld b')
  sound : ∀ x ∈ l, x.IsSound

section
variable {b b₁ b₂ : Browser} {l l' : List Entry}

theorem Stretch.refl (b : Browser) : Stretch b [] b := ⟨fun _ => rfl, by simp⟩

theorem Stretch.append (h : Stretch b l b₁) (h' : Stretch b₁ l' b₂) : Stretch b (l ++ l') b₂ where
  moves k := by
    rw [List.filterMap_append, heldAfter_append, h.moves k]
    exact h'.moves k
  sound := List.forall_mem_append.mpr ⟨h.sound, h'.sound⟩

end

end Browser

/-! ## Work with its history -/

namespace Program

variable {α β : Type}

/-- Work that ends does so in this way, with these calls, however they are answered. -/
def Leaves (Q : List Browser.Entry → Browser → Except Fault α → Prop) : Program α → Prop
  | .done b r => Q [] b r
  | .ask b c next => ∀ reply, (next reply).Leaves fun l => Q (.answered b c reply :: l)

theorem Leaves.mono : ∀ {p : Program α} {P Q : List Browser.Entry → Browser → Except Fault α → Prop},
    p.Leaves P → (∀ l b r, P l b r → Q l b r) → p.Leaves Q
  | .done _ _, _, _, h, hPQ => hPQ _ _ _ h
  | .ask _ _ _, _, _, h, hPQ => fun reply => Leaves.mono (h reply) fun _ b r => hPQ _ b r

theorem Leaves.and : ∀ {p : Program α} {P Q : List Browser.Entry → Browser → Except Fault α → Prop},
    p.Leaves P → p.Leaves Q → p.Leaves fun l b r => P l b r ∧ Q l b r
  | .done _ _, _, _, hP, hQ => ⟨hP, hQ⟩
  | .ask _ _ _, _, _, hP, hQ => fun reply => Leaves.and (hP reply) (hQ reply)

theorem Leaves.andThen {f : Browser → α → Program β} : ∀ {p : Program α}
    {P : List Browser.Entry → Browser → Except Fault α → Prop} {Q : List Browser.Entry → Browser → Except Fault β → Prop},
    p.Leaves P → (∀ l b a, P l b (.ok a) → (f b a).Leaves fun l' => Q (l ++ l')) →
      (∀ l b e, P l b (.error e) → Q l b (.error e)) → (p.andThen f).Leaves Q
  | .done _ (.ok _), _, _, h, hok, _ => hok _ _ _ h
  | .done _ (.error _), _, _, h, _, herror => herror _ _ _ h
  | .ask _ _ _, _, _, h, hok, herror => fun reply =>
    Leaves.andThen (h reply) (fun _ b a hP => hok _ b a hP) fun _ b e hP => herror _ b e hP

theorem Leaves.orElse {f : Browser → Fault → Program α} : ∀ {p : Program α}
    {P Q : List Browser.Entry → Browser → Except Fault α → Prop},
    p.Leaves P → (∀ l b a, P l b (.ok a) → Q l b (.ok a)) →
      (∀ l b e, P l b (.error e) → (f b e).Leaves fun l' => Q (l ++ l')) → (p.orElse f).Leaves Q
  | .done _ (.ok _), _, _, h, hok, _ => hok _ _ _ h
  | .done _ (.error _), _, _, h, _, herror => herror _ _ _ h
  | .ask _ _ _, _, _, h, hok, herror => fun reply =>
    Leaves.orElse (h reply) (fun _ b a hP => hok _ b a hP) fun _ b e hP => herror _ b e hP

theorem Leaves.perform (respond : Respond) : ∀ {p : Program α} {Q : List Browser.Entry → Browser → Except Fault α → Prop}
    (h : List Browser.Entry), p.Leaves Q →
      ∃ l, (p.perform respond h).history = h ++ l ∧ Q l (p.perform respond h).browser (p.perform respond h).result
  | .done _ _, _, h, hQ => ⟨[], (List.append_nil h).symm, hQ⟩
  | .ask b c _, _, h, hQ => by
    obtain ⟨l, hl, hQ⟩ := Leaves.perform respond (h ++ [.answered b c (respond h c)]) (hQ (respond h c))
    exact ⟨_ :: l, hl.trans (by simp), hQ⟩

end Program

namespace Browser

open Work Program

/-! ## Closing -/

def released (b : Browser) : Browser :=
  { b with pages := [], isLaunched := false, isRunning := false, isStarted := false }

def teardown (b : Browser) : List Call :=
  b.pages.map (fun p => .closePage p.2) ++
    ((if b.isLaunched then (if b.countermeasures.clearsCookies then [.clearCookies] else []) ++ [.closeContext] else []) ++
      ((if b.isRunning then [.closeBrowser] else []) ++ (if b.isStarted then [.stop] else [])))

/-- Work that changes a browser in one way with one list of calls, whatever fails. -/
def Gives (w : Work Unit) (calls : List Call) (b b' : Browser) : Prop :=
  (w b).Leaves fun l c r => c = b' ∧ r = .ok () ∧ l.map Entry.call? = calls.map some ∧ Stretch b l b'

section
variable {b b₁ b₂ : Browser} {v w : Work Unit} {calls calls' : List Call}

theorem Gives.andThen (hv : Gives v calls b b₁) (hw : Gives w calls' b₁ b₂) : Gives (do v; w) (calls ++ calls') b b₂ := by
  refine Leaves.andThen hv ?_ ?_
  · rintro l c a ⟨rfl, _, hcalls, hl⟩
    refine Leaves.mono hw ?_
    rintro l' c' r ⟨rfl, rfl, hcalls', hl'⟩
    exact ⟨rfl, rfl, by rw [List.map_append, List.map_append, hcalls, hcalls'], hl.append hl'⟩
  · rintro l c e ⟨_, h, _⟩
    cases h

theorem gives_pure (b : Browser) : Gives (pure ()) [] b b := ⟨rfl, rfl, rfl, .refl b⟩

theorem leaves_ignoreFaults {c : Call} {Q : List Entry → Browser → Except Fault Unit → Prop}
    (h : ∀ reply, (w b).Leaves fun l => Q (.answered b c reply :: l)) :
    ((do ignoreFaults (tell c); w : Work Unit) b).Leaves Q := by
  intro reply
  cases reply <;> exact h _

theorem leaves_ignoreFaults_last {c : Call} {Q : List Entry → Browser → Except Fault Unit → Prop}
    (h : ∀ reply, Q [.answered b c reply] b (.ok ())) : (ignoreFaults (tell c) b).Leaves Q := by
  intro reply
  cases reply <;> exact h _

theorem IsSound.stretch_closePage (hb : b.IsSound) (page : Page) (reply : Reply) :
    Stretch b [.answered b (.closePage page) reply] b :=
  ⟨by rintro (_ | _ | _) <;> rfl, by simpa [Entry.IsSound] using hb⟩

theorem closePages_gives (hb : b.IsSound) : ∀ pages : List (String × Page),
    Gives (closePages pages) (pages.map fun p => .closePage p.2) b b
  | [] => gives_pure b
  | (_, page) :: rest => by
    refine leaves_ignoreFaults fun reply => Leaves.mono (closePages_gives hb rest) ?_
    rintro l c r ⟨rfl, rfl, hcalls, hl⟩
    exact ⟨rfl, rfl, by simp [Entry.call?, hcalls], (hb.stretch_closePage page reply).append hl⟩

theorem leaves_ite {q : Prop} [Decidable q] {Q : List Entry → Browser → Except Fault Unit → Prop}
    (hv : q → (v b).Leaves Q) (hw : ¬q → (w b).Leaves Q) : ((if q then v else w) b).Leaves Q := by
  split
  · rename_i hq
    exact hv hq
  · rename_i hq
    exact hw hq

theorem closeContext_gives (hb : b.IsSound) (hp : b.pages = []) :
    Gives closeContext (if b.isLaunched then (if b.countermeasures.clearsCookies then [.clearCookies] else []) ++ [.closeContext]
      else []) b { b with isLaunched := false } := by
  have hsound : IsSound { b with isLaunched := false } := ⟨fun h => absurd hp h, nofun, hb.process⟩
  refine leaves_ite (fun hl => leaves_ite (b := { b with isLaunched := false }) (fun hc => ?_) fun hc => ?_) fun hl => ?_
  · refine leaves_ignoreFaults fun reply => leaves_ignoreFaults_last fun reply' => ⟨rfl, rfl, ?_, ?_, ?_⟩
    · rw [if_pos hl, if_pos hc]
      rfl
    · rintro (_ | _ | _)
      · rfl
      · rfl
      · show heldAfter b.isLaunched [false] = some false
        rw [hl]
        rfl
    · simpa [Entry.IsSound] using hsound
  · refine leaves_ignoreFaults_last fun reply => ⟨rfl, rfl, ?_, ?_, ?_⟩
    · rw [if_pos hl, if_neg hc]
      rfl
    · rintro (_ | _ | _)
      · rfl
      · rfl
      · show heldAfter b.isLaunched [false] = some false
        rw [hl]
        rfl
    · simpa [Entry.IsSound] using hsound
  · have he : { b with isLaunched := false } = b := by rw [← Bool.eq_false_iff.mpr hl]
    rw [he, if_neg hl]
    exact gives_pure b

theorem closeProcess_gives (hb : b.IsSound) (hl : b.isLaunched = false) :
    Gives closeProcess (if b.isRunning then [.closeBrowser] else []) b { b with isRunning := false } := by
  have hsound : IsSound { b with isRunning := false } :=
    ⟨hb.pages, fun h => absurd (hl.symm.trans h) nofun, nofun⟩
  refine leaves_ite (fun hr => ?_) fun hr => ?_
  · refine leaves_ignoreFaults_last (b := { b with isRunning := false }) fun reply => ⟨rfl, rfl, ?_, ?_, ?_⟩
    · rw [if_pos hr]
      rfl
    · rintro (_ | _ | _)
      · rfl
      · show heldAfter b.isRunning [false] = some false
        rw [hr]
        rfl
      · rfl
    · simpa [Entry.IsSound] using hsound
  · have he : { b with isRunning := false } = b := by rw [← Bool.eq_false_iff.mpr hr]
    rw [he, if_neg hr]
    exact gives_pure b

theorem stopDriver_gives (hb : b.IsSound) (hr : b.isRunning = false) :
    Gives stopDriver (if b.isStarted then [.stop] else []) b { b with isStarted := false } := by
  have hsound : IsSound { b with isStarted := false } :=
    ⟨hb.pages, hb.context, fun h => absurd (hr.symm.trans h) nofun⟩
  refine leaves_ite (fun hs => ?_) fun hs => ?_
  · refine leaves_ignoreFaults_last (b := { b with isStarted := false }) fun reply => ⟨rfl, rfl, ?_, ?_, ?_⟩
    · rw [if_pos hs]
      rfl
    · rintro (_ | _ | _)
      · show heldAfter b.isStarted [false] = some false
        rw [hs]
        rfl
      · rfl
      · rfl
    · simpa [Entry.IsSound] using hsound
  · have he : { b with isStarted := false } = b := by rw [← Bool.eq_false_iff.mpr hs]
    rw [he, if_neg hs]
    exact gives_pure b

theorem IsSound.released_eq (hb : b.IsSound) (h : ¬(b.isStarted || b.isRunning || b.isLaunched) = true) :
    b.IsClosed ∧ b.released = b ∧ b.teardown = [] := by
  simp only [Bool.or_eq_true, not_or, Bool.not_eq_true] at h
  obtain ⟨⟨hs, hr⟩, hl⟩ := h
  have hp : b.pages = [] := Classical.byContradiction fun hp => absurd ((hb.pages hp).symm.trans hl) nofun
  refine ⟨⟨hs, hr, hl⟩, ?_, ?_⟩
  · cases b
    simp only at hs hr hl hp
    subst hs hr hl hp
    rfl
  · simp [teardown, hs, hr, hl, hp]

theorem isSound_released (b : Browser) : b.released.IsSound := ⟨fun h => absurd rfl h, nofun, nofun⟩

/-- **Closing gives everything back**, in one order and whatever fails on the way. -/
theorem close_gives (hb : b.IsSound) : Gives close b.teardown b b.released := by
  refine leaves_ite (fun _ => ?_) fun hn => ?_
  · let b₁ := { b with pages := [] }
    have h₁ : b₁.IsSound := ⟨fun h => absurd rfl h, hb.context, hb.process⟩
    let b₂ := { b₁ with isLaunched := false }
    have h₂ : b₂.IsSound := ⟨fun h => absurd rfl h, nofun, hb.process⟩
    let b₃ := { b₂ with isRunning := false }
    have h₃ : b₃.IsSound := ⟨fun h => absurd rfl h, nofun, nofun⟩
    have hclose := (closePages_gives h₁ b.pages).andThen ((closeContext_gives h₁ rfl).andThen
      ((closeProcess_gives h₂ rfl).andThen (stopDriver_gives h₃ rfl)))
    exact Leaves.mono hclose fun l c r ⟨hc, hr, hcalls, hl⟩ => ⟨hc, hr, hcalls, hl.moves, hl.sound⟩
  · obtain ⟨_, heq, hcalls⟩ := hb.released_eq hn
    rw [heq, hcalls]
    exact gives_pure b

end

/-! ## Starting -/

section
variable {α : Type} {b : Browser} {w : Work α}

theorem leaves_tell {c : Call} {Q : List Entry → Browser → Except Fault α → Prop}
    (hfault : ∀ f, Q [.answered b c (.raised f)] b (.error f))
    (h : ∀ reply, reply.isFault = false → (w b).Leaves fun l => Q (.answered b c reply :: l)) :
    ((do tell c; w : Work α) b).Leaves Q := by
  intro reply
  cases reply with
  | raised f => exact hfault f
  | _ => exact h _ rfl

theorem leaves_tell_last {c : Call} {Q : List Entry → Browser → Except Fault Unit → Prop}
    (hfault : ∀ f, Q [.answered b c (.raised f)] b (.error f))
    (h : ∀ reply, reply.isFault = false → Q [.answered b c reply] b (.ok ())) : (tell c b).Leaves Q := by
  intro reply
  cases reply with
  | raised f => exact hfault f
  | _ => exact h _ rfl

end

section
variable {b : Browser} (hb : b.IsSound)
include hb

theorem IsSound.stretch_call (c : Call) (reply : Reply) (hc : ∀ k : Handle, k.move? (.answered b c reply) = none) :
    Stretch b [.answered b c reply] b :=
  ⟨fun k => by rw [List.filterMap_cons_none (hc k)]; rfl, by simpa [Entry.IsSound] using hb⟩

theorem IsSound.stretch_start (hs : b.isStarted = false) {reply : Reply} (hr : reply.isFault = false) :
    Stretch b [.answered b .start reply] { b with isStarted := true } := by
  refine ⟨?_, by simpa [Entry.IsSound] using hb⟩
  rintro (_ | _ | _)
  · simp [Handle.move?, Handle.isHeld, hr, hs, heldAfter]
  · rfl
  · rfl

theorem IsSound.stretch_launch (hrun : b.isRunning = false) (options : LaunchOptions) {reply : Reply}
    (hr : reply.isFault = false) : Stretch b [.answered b (.launch options) reply] { b with isRunning := true } := by
  refine ⟨?_, by simpa [Entry.IsSound] using hb⟩
  rintro (_ | _ | _)
  · rfl
  · simp [Handle.move?, Handle.isHeld, hr, hrun, heldAfter]
  · rfl

theorem IsSound.of_not_started (hs : b.isStarted = false) : b.isRunning = false ∧ b.isLaunched = false ∧ b.pages = [] := by
  have hr : b.isRunning = false := Bool.eq_false_iff.mpr fun hr => absurd ((hb.process hr).symm.trans hs) nofun
  have hl : b.isLaunched = false := Bool.eq_false_iff.mpr fun hl => absurd ((hb.context hl).symm.trans hr) nofun
  exact ⟨hr, hl, Classical.byContradiction fun hp => absurd ((hb.pages hp).symm.trans hl) nofun⟩

theorem startAll_leaves (hs : b.isStarted = false) (options : LaunchOptions) (context : ContextOptions) (script : String) :
    (startAll options context script b).Leaves fun l c r => Stretch b l c ∧ c.IsSound ∧ c.pages = [] ∧ c.isLaunched = false ∧
      match r with
      | .ok _ => c.isRunning = true
      | .error _ => l.any Entry.hasFailed = true := by
  obtain ⟨hr, hl, hp⟩ := hb.of_not_started hs
  let b₁ := { b with isStarted := true }
  have h₁ : b₁.IsSound := ⟨hb.pages, hb.context, fun _ => rfl⟩
  let b₂ := { b₁ with isRunning := true }
  have h₂ : b₂.IsSound := ⟨hb.pages, fun _ => rfl, fun _ => rfl⟩
  refine leaves_tell (fun f => ?_) fun reply hstart => ?_
  · have hfail := hb.stretch_call .start (.raised f) (by rintro (_ | _ | _) <;> rfl)
    exact ⟨hfail, hb, hp, hl, by simp [Entry.hasFailed, Reply.isFault]⟩
  have hstart := hb.stretch_start hs hstart
  refine leaves_tell (b := b₁) (fun f => ?_) fun reply hlaunch => ?_
  · have hfail := h₁.stretch_call (.launch options) (.raised f) (by rintro (_ | _ | _) <;> rfl)
    exact ⟨hstart.append hfail, h₁, hp, hl, by simp [Entry.hasFailed, Reply.isFault]⟩
  have hlaunch := hstart.append (h₁.stretch_launch hr options hlaunch)
  refine leaves_tell (b := b₂) (fun f => ?_) fun reply _ => ?_
  · have hfail := h₂.stretch_call (.newContext context) (.raised f) (by rintro (_ | _ | _) <;> rfl)
    exact ⟨hlaunch.append hfail, h₂, hp, hl, by simp [Entry.hasFailed, Reply.isFault]⟩
  have hcontext := hlaunch.append (h₂.stretch_call (.newContext context) reply (by rintro (_ | _ | _) <;> rfl))
  refine leaves_tell_last (b := b₂) (fun f => ?_) fun reply _ => ?_
  · have hfail := h₂.stretch_call (.addInitScript script) (.raised f) (by rintro (_ | _ | _) <;> rfl)
    exact ⟨hcontext.append hfail, h₂, hp, hl, by simp [Entry.hasFailed, Reply.isFault]⟩
  · have hinit := h₂.stretch_call (.addInitScript script) reply (by rintro (_ | _ | _) <;> rfl)
    exact ⟨hcontext.append hinit, h₂, hp, hl, rfl⟩

omit hb in
theorem launch_none (hs : b.isStarted = false) : launch none b =
    launch (some (ProfilePool.all.draw b.random).1) { b with random := (ProfilePool.all.draw b.random).2 } := by
  cases b
  simp only at hs
  subst hs
  unfold launch
  generalize ProfilePool.all.draw = d
  rfl

/-- What a launch leaves of a browser that has not been started. -/
def Launched (b : Browser) (given : Option Profile) (l : List Entry) (c : Browser) : Except Fault Profile → Prop
  | .ok _ => Stretch b (l ++ [.ended (.launch given) (.ok none)]) c ∧ c.IsSound ∧ c.isLaunched = true
  | .error e => Stretch b l c ∧ c.IsSound ∧ (∃ message, e = .sessionInit message) ∧ c.IsClosed ∧ c.pages = [] ∧
      l.any Entry.hasFailed = true

theorem launch_some_leaves (hs : b.isStarted = false) (given : Option Profile) (profile : Profile) :
    (launch (some profile) b).Leaves (Launched b given) := by
  change ((if b.isStarted = true then raise alreadyLaunched else _ : Work Profile) b).Leaves _
  rw [hs, if_neg Bool.false_ne_true]
  change ((Program.orElse _ (startAll _ _ _ _)).andThen _).Leaves _
  let P (l : List Entry) (c : Browser) : Except Fault Unit → Prop
    | .ok _ => Stretch b l c ∧ c.IsSound ∧ c.isRunning = true ∧ c.isLaunched = false
    | .error e => Launched b given l c (.error e)
  refine Leaves.andThen (P := P) (Leaves.orElse (startAll_leaves ?_ ?_ _ _ _) ?_ ?_) ?_ ?_
  · exact ⟨hb.pages, hb.context, hb.process⟩
  · exact hs
  · rintro l c u ⟨hl, hc, _, hlaunched, hrun⟩
    exact ⟨⟨hl.moves, hl.sound⟩, hc, hrun, hlaunched⟩
  · rintro l c e ⟨hl, hc, hp, hlaunched, hfail⟩
    refine Leaves.andThen (close_gives hc) ?_ ?_
    · rintro l' c' u ⟨rfl, _, _, hl'⟩
      have hstretch := (Stretch.mk (b := b) hl.moves hl.sound).append hl'
      have hany : (l ++ l').any Entry.hasFailed = true := by rw [List.any_append, hfail, Bool.true_or]
      exact ⟨by simpa using hstretch, c.isSound_released, ⟨_, rfl⟩, ⟨rfl, rfl, rfl⟩, rfl, by simpa using hany⟩
    · rintro l' c' e' ⟨_, h, _⟩
      cases h
  · rintro l c u ⟨hl, hc, hrun, hlaunched⟩
    refine ⟨?_, ⟨fun _ => rfl, fun _ => hrun, hc.process⟩, rfl⟩
    rw [List.append_nil]
    refine hl.append ⟨?_, by simp [Entry.IsSound]⟩
    rintro (_ | _ | _)
    · rfl
    · rfl
    · show heldAfter c.isLaunched [true] = some true
      rw [hlaunched]
      rfl
  · exact fun l c e h => h

/-- **A launch that fails leaves nothing behind**, and fails only when one of its calls does. -/
theorem launch_leaves (hs : b.isStarted = false) (given : Option Profile) : (launch given b).Leaves (Launched b given) := by
  cases given with
  | some profile => exact launch_some_leaves hb hs (some profile) profile
  | none =>
    rw [launch_none hs]
    generalize (ProfilePool.all.draw b.random).1 = profile
    generalize (ProfilePool.all.draw b.random).2 = random
    have hsound : IsSound { b with random } := ⟨hb.pages, hb.context, hb.process⟩
    refine Leaves.mono (launch_some_leaves hsound hs none profile) ?_
    rintro l c (e | profile) h
    · exact ⟨⟨h.1.moves, h.1.sound⟩, h.2⟩
    · exact ⟨⟨h.1.moves, h.1.sound⟩, h.2⟩

omit hb in
theorem launch_started (hs : b.isStarted = true) (given : Option Profile) :
    launch given b = .done b (.error alreadyLaunched) := by
  change (if b.isStarted = true then raise alreadyLaunched else _ : Work Profile) b = _
  rw [if_pos hs]
  rfl

end

/-! ## Pages -/

def page? (id : String) (b : Browser) : Option Page := b.pages.lookup (pageName id)

/-- An operation that does not close the page of an id. -/
def Operation.spares (id : String) : Operation → Bool
  | .close => false
  | .closePage id' => pageName id' != pageName id
  | .launch _ | .openPage _ => true

section
variable {b : Browser} {id : String}

theorem IsSound.launched_of_page (hb : b.IsSound) {page : Page} (hp : b.page? id = some page) : b.isLaunched = true := by
  refine hb.pages fun hnil => ?_
  rw [page?, hnil] at hp
  cases hp

theorem browser_bind {α : Type} (f : Browser → Work α) (b : Browser) : (browser >>= f) b = f b b := rfl

theorem IsSound.openPage_cached (hb : b.IsSound) {page : Page} (hp : b.page? id = some page) :
    openPage id b = .done b (.ok page) := by
  have hp : b.pages.lookup (pageName id) = some page := hp
  rw [openPage, browser_bind, hb.launched_of_page hp, if_neg (by simp)]
  dsimp only
  rw [hp]
  rfl

/-- What work on pages leaves, but for the names in `closed`. -/
structure Pages (closed : String → Prop) (b : Browser) (l : List Entry) (c : Browser) : Prop where
  stretch : Stretch b l c
  sound : c.IsSound
  kept : ∀ name page, ¬closed name → b.pages.lookup name = some page → c.pages.lookup name = some page

theorem lookup_append_of_some {l l' : List (String × Page)} {name : String} {page : Page} (h : l.lookup name = some page) :
    (l ++ l').lookup name = some page := by
  rw [List.lookup_append, h]
  rfl

theorem openPage_leaves (hb : b.IsSound) : (openPage id b).Leaves fun l c r => Pages (fun _ => False) b l c ∧
    ∀ page, r = .ok page → c.page? id = some page := by
  rw [openPage, browser_bind]
  split
  · exact ⟨⟨.refl b, hb, fun _ _ _ h => h⟩, nofun⟩
  · rename_i hl
    simp only [Bool.not_eq_true', Bool.not_eq_false] at hl
    dsimp only
    cases hp : b.pages.lookup (pageName id) with
    | some page =>
      refine ⟨⟨.refl b, hb, fun _ _ _ h => h⟩, fun page' h => ?_⟩
      cases h
      exact hp
    | none =>
      have hopened : ∀ page reply, ((do
          tell (.setTimeout page b.timeoutMs)
          tell (.setNavigationTimeout page b.timeoutMs)
          Work.modify fun b => { b with pages := b.pages ++ [(pageName id, page)] }
          pure page : Work Page) b).Leaves fun l c r =>
            Pages (fun _ => False) b (.answered b .newPage reply :: l) c ∧ ∀ page, r = .ok page → c.page? id = some page := by
        intro page reply
        have hnew := hb.stretch_call .newPage reply (by rintro (_ | _ | _) <;> rfl)
        have htime (reply : Reply) :=
          hnew.append (hb.stretch_call (.setTimeout page b.timeoutMs) reply (by rintro (_ | _ | _) <;> rfl))
        have hnavigation (reply reply' : Reply) := (htime reply).append
          (hb.stretch_call (.setNavigationTimeout page b.timeoutMs) reply' (by rintro (_ | _ | _) <;> rfl))
        refine leaves_tell (fun f => ⟨⟨htime _, hb, fun _ _ _ h => h⟩, nofun⟩) fun reply _ => ?_
        refine leaves_tell (fun f => ⟨⟨hnavigation _ _, hb, fun _ _ _ h => h⟩, nofun⟩) fun reply' _ => ?_
        have hall := hnavigation reply reply'
        refine ⟨⟨⟨hall.moves, hall.sound⟩, ⟨fun _ => hl, hb.context, hb.process⟩, fun _ _ _ h => lookup_append_of_some h⟩, ?_⟩
        intro page' h
        cases h
        show (b.pages ++ [(pageName id, page)]).lookup (pageName id) = some page
        rw [List.lookup_append, hp]
        simp
      intro reply
      cases reply with
      | raised f =>
        have hnew := hb.stretch_call .newPage (.raised f) (by rintro (_ | _ | _) <;> rfl)
        exact ⟨⟨hnew, hb, fun _ _ _ h => h⟩, nofun⟩
      | page page => exact hopened page _
      | value | image => exact hopened ⟨0⟩ _

theorem lookup_filter_of_ne {name closed : String} (hne : ¬name = closed) : ∀ l : List (String × Page),
    (l.filter fun p => p.1 != closed).lookup name = l.lookup name
  | [] => rfl
  | (other, page) :: l => by
    have ih := lookup_filter_of_ne hne l
    by_cases ho : other = closed
    · subst ho
      have hno : (name == other) = false := by simpa using hne
      simp [List.lookup_cons, ih, hno]
    · simp [List.lookup_cons, ih, ho]

theorem closePage_leaves (hb : b.IsSound) : (closePage id b).Leaves fun l c _ => Pages (· = pageName id) b l c := by
  rw [closePage, browser_bind]
  cases b.pages.lookup (pageName id) with
  | none => exact ⟨.refl b, hb, fun _ _ _ h => h⟩
  | some page =>
    let c := { b with pages := b.pages.filter fun p => p.1 != pageName id }
    have hc : c.IsSound := ⟨fun h => hb.pages fun hp => h (by simp [c, hp]), hb.context, hb.process⟩
    have hclosed (reply : Reply) : Pages (· = pageName id) b [.answered c (.closePage page) reply] c := by
      have hstretch := hc.stretch_closePage page reply
      refine ⟨⟨hstretch.moves, hstretch.sound⟩, hc, fun name _ hne h => ?_⟩
      rw [lookup_filter_of_ne hne]
      exact h
    exact leaves_tell_last (b := c) (fun f => hclosed _) fun reply _ => hclosed reply

end

/-! ## Whole histories -/

section
variable {b : Browser}

theorem leaves_map {α β : Type} {w : Work α} {f : α → β} {P : List Entry → Browser → Except Fault α → Prop}
    {Q : List Entry → Browser → Except Fault β → Prop} (h : (w b).Leaves P) (hPQ : ∀ l c r, P l c r → Q l c (r.map f)) :
    ((do let a ← w; pure (f a) : Work β) b).Leaves Q := by
  refine Leaves.andThen h (fun l c a hP => ?_) fun l c e hP => hPQ l c _ hP
  show Q (l ++ []) c (.ok (f a))
  rw [List.append_nil]
  exact hPQ l c _ hP

theorem Stretch.ended {l : List Entry} {c : Browser} (h : Stretch b l c) (op : Operation) (r : Except Fault (Option Page))
    (hop : ∀ k : Handle, k.move? (.ended op r) = none) : Stretch b (l ++ [.ended op r]) c := by
  refine h.append ⟨fun k => ?_, by simp [Entry.IsSound]⟩
  rw [List.filterMap_cons_none (hop k)]
  rfl

/-- **Every operation moves the handles in turn** and keeps the pages that it does not close. -/
theorem Operation.work_leaves (op : Operation) (hb : b.IsSound) : (op.work b).Leaves fun l c r =>
    Stretch b (l ++ [.ended op r]) c ∧ c.IsSound ∧
      ∀ id page, op.spares id = true → b.page? id = some page → c.page? id = some page := by
  cases op with
  | launch given =>
    cases hs : b.isStarted with
    | true =>
      have hlaunch : (Browser.launch given b).Leaves fun l c r => l = [] ∧ c = b ∧ r = .error alreadyLaunched := by
        rw [launch_started hs]
        exact ⟨rfl, rfl, rfl⟩
      refine leaves_map hlaunch ?_
      rintro l c r ⟨rfl, rfl, rfl⟩
      exact ⟨(Stretch.refl c).ended _ _ (by rintro (_ | _ | _) <;> rfl), hb, fun _ _ _ h => h⟩
    | false =>
      -- without a driver there are no pages
      have hnone : ∀ id page, b.page? id ≠ some page := fun id page h =>
        absurd ((hb.launched_of_page h).symm.trans (hb.of_not_started hs).2.1) nofun
      refine leaves_map (launch_leaves hb hs given) ?_
      rintro l c (e | profile) h
      · exact ⟨h.1.ended _ _ (by rintro (_ | _ | _) <;> rfl), h.2.1, fun id page _ hp => absurd hp (hnone id page)⟩
      · exact ⟨h.1, h.2.1, fun id page _ hp => absurd hp (hnone id page)⟩
  | close =>
    refine leaves_map (close_gives hb) ?_
    rintro l c r ⟨rfl, rfl, _, hl⟩
    exact ⟨hl.ended _ _ (by rintro (_ | _ | _) <;> rfl), isSound_released b, nofun⟩
  | openPage id =>
    refine leaves_map (openPage_leaves hb) ?_
    rintro l c r ⟨hl, _⟩
    exact ⟨hl.stretch.ended _ _ (by rintro (_ | _ | _) <;> rfl), hl.sound, fun id page _ h => hl.kept _ page nofun h⟩
  | closePage id =>
    refine leaves_map (closePage_leaves hb) ?_
    rintro l c r hl
    refine ⟨hl.stretch.ended _ _ (by rintro (_ | _ | _) <;> rfl), hl.sound, fun id' page hid h => hl.kept _ page ?_ h⟩
    simp only [spares, bne_iff_ne] at hid
    exact Ne.symm hid

theorem Usage.after_stretch (respond : Respond) {u : Usage} (hu : u.browser.IsSound) (op : Operation) :
    ∃ l, (u.after respond op).history = u.history ++ l ∧ Stretch u.browser l (u.after respond op).browser ∧
      (u.after respond op).browser.IsSound ∧ ∀ id page, op.spares id = true → u.browser.page? id = some page →
        (u.after respond op).browser.page? id = some page := by
  obtain ⟨l, hl, hstretch, hsound, hpages⟩ := (op.work_leaves hu).perform respond u.history
  exact ⟨_, by rw [Usage.after, hl, List.append_assoc], hstretch, hsound, hpages⟩

theorem Usage.afterAll_stretch (respond : Respond) (ops : List Operation) : ∀ {u : Usage}, u.browser.IsSound →
    ∃ l, (u.afterAll respond ops).history = u.history ++ l ∧ Stretch u.browser l (u.afterAll respond ops).browser ∧
      (u.afterAll respond ops).browser.IsSound ∧ ∀ id page, (∀ op ∈ ops, op.spares id = true) →
        u.browser.page? id = some page → (u.afterAll respond ops).browser.page? id = some page := by
  induction ops with
  | nil => exact fun {u} hu => ⟨[], (List.append_nil _).symm, .refl _, hu, fun _ _ _ h => h⟩
  | cons op ops ih =>
    intro u hu
    obtain ⟨l, hl, hstretch, hsound, hpages⟩ := after_stretch respond hu op
    obtain ⟨l', hl', hstretch', hsound', hpages'⟩ := ih hsound
    refine ⟨l ++ l', ?_, hstretch.append hstretch', hsound', fun id page hop hp => ?_⟩
    · rw [← List.append_assoc, ← hl]
      exact hl'
    · exact hpages' id page (fun op' h => hop op' (by simp [h])) (hpages id page (hop op (by simp)) hp)

/-- Closing returns, with the calls that give everything back, and closing once more makes none. -/
theorem IsSound.close_performs (hb : b.IsSound) (respond : Respond) (h : List Entry) :
    ∃ l, (close b).perform respond h = ⟨h ++ l, b.released, .ok ()⟩ ∧ l.map Entry.call? = b.teardown.map some ∧
      (close b.released).perform respond (h ++ l) = ⟨h ++ l, b.released, .ok ()⟩ := by
  obtain ⟨l, hl, hbrowser, hresult, hcalls, _⟩ := (close_gives hb).perform respond h
  have hclosed : b.released.IsClosed := ⟨rfl, rfl, rfl⟩
  refine ⟨l, ?_, hcalls, ?_⟩
  · rw [← hl, ← hbrowser, ← hresult]
  · rw [hclosed.close_eq]
    rfl

/-- A launch is refused while the driver runs, and otherwise succeeds or leaves the browser as closed. -/
theorem IsSound.launch_performs (hb : b.IsSound) (respond : Respond) (h : List Entry) (given : Option Profile) :
    (b.isStarted = true → (launch given b).perform respond h = ⟨h, b, .error alreadyLaunched⟩) ∧
      (b.isStarted = false → ∃ l c r, (launch given b).perform respond h = ⟨h ++ l, c, r⟩ ∧
        ((∃ profile, r = .ok profile) ∧ c.isLaunched = true ∨
          (∃ message, r = .error (.sessionInit message)) ∧ c.IsClosed ∧ c.pages = [] ∧ l.any Entry.hasFailed = true)) := by
  refine ⟨fun hs => by rw [launch_started hs]; rfl, fun hs => ?_⟩
  obtain ⟨l, hl, hleft⟩ := (launch_leaves hb hs given).perform respond h
  refine ⟨l, _, _, by rw [← hl], ?_⟩
  revert hleft
  cases ((launch given b).perform respond h).result with
  | ok profile => exact fun hleft => .inl ⟨⟨profile, rfl⟩, hleft.2.2⟩
  | error e =>
    rintro ⟨_, _, ⟨message, rfl⟩, hclosed, hpages, hfailed⟩
    exact .inr ⟨⟨message, rfl⟩, hclosed, hpages, hfailed⟩

end

/-- **The handles of a browser are in order**, whatever is done with it and
whatever fails. Driver, process and context are taken and given back in turn, so
that each is given back once by the time that it is not held, as after a close
or a launch that failed. A close gives back all that is held, in one order, and
does not raise. A page is there with a context only, and stays the one of its id
until it is closed. -/
theorem handles_in_order (s : Settings) (countermeasures : Countermeasures) (pacer : Pacer) (random : Twister)
    (respond : Respond) (ops : List Operation) :
    let u := Usage.afterAll respond ⟨create s countermeasures pacer random, []⟩ ops
    let b := u.browser
    (∀ k : Handle, heldAfter false (u.history.filterMap k.move?) = some (k.isHeld b) ∧
      (u.history.filterMap k.move?).count true = (u.history.filterMap k.move?).count false + (k.isHeld b).toNat) ∧
      b.IsSound ∧ (∀ x ∈ u.history, x.IsSound) ∧
        (∃ l, (close b).perform respond u.history = ⟨u.history ++ l, b.released, .ok ()⟩ ∧
          l.map Entry.call? = b.teardown.map some ∧
            (close b.released).perform respond (u.history ++ l) = ⟨u.history ++ l, b.released, .ok ()⟩) ∧
          (∀ given,
            (b.isStarted = true → (launch given b).perform respond u.history = ⟨u.history, b, .error alreadyLaunched⟩) ∧
              (b.isStarted = false → ∃ l c r, (launch given b).perform respond u.history = ⟨u.history ++ l, c, r⟩ ∧
                ((∃ profile, r = .ok profile) ∧ c.isLaunched = true ∨
                  (∃ message, r = .error (.sessionInit message)) ∧ c.IsClosed ∧ c.pages = [] ∧
                    l.any Entry.hasFailed = true))) ∧
            (∀ id page, ((openPage id b).perform respond u.history).result = .ok page →
              ((openPage id b).perform respond u.history).browser.page? id = some page) ∧
              ∀ id page, b.page? id = some page →
                (openPage id b).perform respond u.history = ⟨u.history, b, .ok page⟩ ∧
                  ∀ later, (∀ op ∈ later, op.spares id = true) → (u.afterAll respond later).browser.page? id = some page := by
  intro u b
  have hfresh : (create s countermeasures pacer random).IsSound := ⟨fun h => absurd rfl h, nofun, nofun⟩
  obtain ⟨l, hl, hstretch, hb, _⟩ : ∃ l, u.history = [] ++ l ∧ Stretch (create s countermeasures pacer random) l b ∧ b.IsSound ∧ _ :=
    Usage.afterAll_stretch respond ops hfresh
  have hmoves : ∀ k : Handle, heldAfter false (u.history.filterMap k.move?) = some (k.isHeld b) := by
    intro k
    have hk := hstretch.moves k
    rw [show u.history = l from hl]
    cases k <;> exact hk
  refine ⟨fun k => ⟨hmoves k, count_of_heldAfter (hmoves k)⟩, hb, ?_, hb.close_performs respond u.history,
    hb.launch_performs respond u.history, fun id => ?_, fun id page hp => ⟨?_, fun later hlater => ?_⟩⟩
  · rw [show u.history = l from hl]
    exact hstretch.sound
  · obtain ⟨_, _, _, hopened⟩ := (openPage_leaves hb : (openPage id b).Leaves _).perform respond u.history
    exact hopened
  · rw [hb.openPage_cached hp]
    rfl
  · obtain ⟨_, _, _, _, hkept⟩ := Usage.afterAll_stretch respond later hb
    exact hkept id page hlater hp

end Browser

end BrowserPilot
