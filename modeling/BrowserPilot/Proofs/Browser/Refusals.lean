import BrowserPilot.Browser.Primitives
import BrowserPilot.Proofs.Browser.Handles

/-!
# Refusals of the driven browser

A call that the driven browser refuses ends the primitive that made it. The
fault that comes out is the one of the primitive, but for the calls that set
the time limits of a new page, whose refusals come out as they are.
-/

namespace BrowserPilot

/-! ## Calls and their refusals -/

namespace Call

def isSleep : Call → Bool
  | sleep _ => true
  | _ => false

def setsTimeout : Call → Bool
  | setTimeout .. | setNavigationTimeout .. => true
  | _ => false

def opensPage : Call → Bool
  | newPage => true
  | c => c.setsTimeout

end Call

def Fault.isRefusal : Fault → Bool
  | .browser .. => true
  | _ => false

namespace Browser

open Work

def Entry.isRefusal : Entry → Bool
  | answered _ _ (.raised f) => f.isRefusal
  | _ => false

/-! ## Primitives -/

inductive Primitive where
  | navigate (url : String)
  | click (selector : String)
  | type (selector text : String)
  | scroll (direction : String) (distance : Option Amount)
  | waitForSelector (selector : String)
  | waitFor (ms : Int)
  | waitForPart (ms : Binary64)
  | extract (selector : String)
  | screenshot (fullPage : Bool)
  | evaluate (code : String)
  | content

namespace Primitive

abbrev Value : Primitive → Type
  | extract _ => List Extract
  | screenshot _ => List UInt8
  | evaluate _ | content => Json
  | _ => Unit

def work (id : String) : (p : Primitive) → Work p.Value
  | navigate url => Browser.navigate url id
  | click selector => Browser.click selector id
  | type selector text => Browser.type selector text id
  | scroll direction distance => scrollTowards direction distance id
  | waitForSelector selector => Browser.waitForSelector selector id
  | waitFor ms => Browser.waitFor ms id
  | waitForPart ms => Browser.waitForPart ms id
  | extract selector => Browser.extract selector id
  | screenshot fullPage => Browser.screenshot fullPage id
  | evaluate code => Browser.evaluate code id
  | content => Browser.content id

/-- The fault of a primitive on its page; a plain wait asks nothing of it. -/
def told? (ms : Nat) (timedOut : Bool) (f : Fault) : Primitive → Option StepFault
  | navigate url => some (if timedOut then .navigationTimeout url ms else .navigationFailed url (headline f))
  | click selector | type selector _ | extract selector => some (.elementNotFound selector (headline f))
  | scroll .. => some (.scriptFailed ("Scroll failed: " ++ headline f) "")
  | waitForSelector selector => some (if timedOut then .waitTimeout selector ms else .elementNotFound selector (headline f))
  | waitFor _ | waitForPart _ => none
  | screenshot _ => some (.scriptFailed ("Screenshot failed: " ++ f.message) "")
  | evaluate _ => some (.scriptFailed ("Script execution failed: " ++ f.message) "")
  | content => some (.scriptFailed ("Failed to get page content: " ++ f.message) "")

def documented? (p : Primitive) (id : String) (ms : Nat) (timedOut : Bool) (f : Fault) : Call → Option StepFault
  | .newPage => some (.scriptFailed ("Could not open page " ++ pageName id ++ ": " ++ headline f) (pageName id))
  | .setTimeout .. | .setNavigationTimeout .. | .sleep _ => none
  | _ => p.told? ms timedOut f

/-- What comes out of a primitive when a call is refused; nothing is said about sleeps. -/
def Tells (p : Primitive) (id : String) (ms : Nat) (c : Call) (timedOut : Bool) (message : String) (e : Fault) : Prop :=
  c.isSleep = true ∨ c.setsTimeout = true ∧ e = .browser timedOut message ∨
    ∃ f, p.documented? id ms timedOut (.browser timedOut message) c = some f ∧ e = .step f

theorem tells_sleep (p : Primitive) (id : String) (ms : Nat) (s : Binary64) (timedOut : Bool) (message : String) (e : Fault) :
    p.Tells id ms (.sleep s) timedOut message e := .inl rfl

theorem tells_of_told {p : Primitive} {id : String} {ms : Nat} {c : Call} (hc : c.opensPage = false) {timedOut : Bool}
    {message : String} {f : StepFault} (h : p.told? ms timedOut (.browser timedOut message) = some f) :
    p.Tells id ms c timedOut message (.step f) := by
  cases c with
  | newPage | setTimeout | setNavigationTimeout => cases hc
  | sleep => exact p.tells_sleep ..
  | _ => exact .inr (.inr ⟨f, h, rfl⟩)

end Primitive

/-! ## Work that heeds refusals -/

/-- A result that is no refusal as it is. -/
def IsTold {α : Type} (r : Except Fault α) : Prop := ∀ e, r = .error e → e.isRefusal = false

/-- The first refusal ends the work, with a fault that it comes out as. -/
inductive Heeds {α : Type} (R : Call → Bool → String → Fault → Prop) : List Entry → Except Fault α → Prop where
  | smooth {l : List Entry} {r : Except Fault α} (hl : ∀ x ∈ l, x.isRefusal = false) (hr : IsTold r) : Heeds R l r
  | refused {l : List Entry} {b : Browser} {c : Call} {timedOut : Bool} {message : String} {e : Fault}
    (hl : ∀ x ∈ l, x.isRefusal = false) (he : R c timedOut message e) :
    Heeds R (l ++ [.answered b c (.raised (.browser timedOut message))]) (.error e)

def Raw (c : Call) (timedOut : Bool) (message : String) (e : Fault) : Prop :=
  c.opensPage = false ∧ e = .browser timedOut message

section
variable {α β : Type} {R R' : Call → Bool → String → Fault → Prop} {l l' : List Entry}

theorem Heeds.smooth_of_ok {a : α} (h : Heeds R l (.ok a)) : ∀ x ∈ l, x.isRefusal = false := by
  cases h with
  | smooth hl _ => exact hl

theorem Heeds.behind {r : Except Fault α} (hl : ∀ x ∈ l, x.isRefusal = false) (h : Heeds R l' r) : Heeds R (l ++ l') r := by
  cases h with
  | smooth hl' hr => exact .smooth (List.forall_mem_append.mpr ⟨hl, hl'⟩) hr
  | refused hl' he =>
    rw [← List.append_assoc]
    exact .refused (List.forall_mem_append.mpr ⟨hl, hl'⟩) he

theorem Heeds.passed_on {e : Fault} (h : Heeds R l (.error e : Except Fault α)) : Heeds R l (.error e : Except Fault β) := by
  cases h with
  | smooth hl hr =>
    refine .smooth hl ?_
    intro e' he'
    cases he'
    exact hr e rfl
  | refused hl he => exact .refused hl he

theorem Heeds.rephrased {e : Fault} {g : Bool → Fault → StepFault} (h : Heeds Raw l (.error e : Except Fault α))
    (hR : ∀ c timedOut message, c.opensPage = false → R c timedOut message (.step (g timedOut (.browser timedOut message)))) :
    Heeds R l (.error (onRefusal g e) : Except Fault α) := by
  cases h with
  | smooth hl hr =>
    have hsame : onRefusal g e = e := by
      have he := hr e rfl
      cases e with
      | browser => cases he
      | _ => rfl
    rw [hsame]
    exact .smooth hl hr
  | refused hl he =>
    obtain ⟨hc, rfl⟩ := he
    exact .refused hl (hR _ _ _ hc)

theorem Heeds.last {r : Except Fault α} (h : Heeds R l r) {before after : List Entry} {b : Browser} {c : Call} {timedOut : Bool}
    {message : String} (hcut : l = before ++ .answered b c (.raised (.browser timedOut message)) :: after) :
    after = [] ∧ ∃ e, r = .error e ∧ R c timedOut message e := by
  cases h with
  | smooth hl _ =>
    have hrefusal := hl (.answered b c (.raised (.browser timedOut message))) (by simp [hcut])
    cases hrefusal
  | refused hl he =>
    rcases List.eq_nil_or_concat after with rfl | ⟨after, last, rfl⟩
    · obtain ⟨_, hsame⟩ := List.append_inj' hcut rfl
      cases hsame
      exact ⟨rfl, _, rfl, he⟩
    · rw [List.concat_eq_append, ← List.cons_append, ← List.append_assoc] at hcut
      have hbefore := (List.append_inj' hcut rfl).1
      have hrefusal := hl (.answered b c (.raised (.browser timedOut message))) (by simp [hbefore])
      cases hrefusal

theorem Heeds.escaped {r : Except Fault α} (h : Heeds R l r) {e : Fault} (he : r = .error e) (hrefusal : e.isRefusal = true) :
    ∃ before b c timedOut message, l = before ++ [.answered b c (.raised (.browser timedOut message))] ∧
      R c timedOut message e := by
  cases h with
  | smooth _ hr => cases (hr e he).symm.trans hrefusal
  | refused _ hR =>
    cases he
    exact ⟨_, _, _, _, _, rfl, hR⟩

theorem heeds_raised {b : Browser} {c : Call} (hR : ∀ timedOut message, R c timedOut message (.browser timedOut message))
    (f : Fault) : Heeds R [.answered b c (.raised f)] (.error f : Except Fault α) := by
  cases hf : f.isRefusal with
  | false =>
    refine .smooth ?_ ?_
    · simpa [Entry.isRefusal] using hf
    · intro e he
      cases he
      exact hf
  | true =>
    cases f with
    | browser timedOut message => exact .refused (l := []) (by simp) (hR timedOut message)
    | _ => cases hf

theorem heeds_rephrased {b : Browser} {c : Call} {g : Bool → Fault → StepFault}
    (hR : ∀ timedOut message, R c timedOut message (.step (g timedOut (.browser timedOut message)))) (f : Fault) :
    Heeds R [.answered b c (.raised f)] (.error (onRefusal g f) : Except Fault α) := by
  cases f with
  | browser timedOut message => exact .refused (l := []) (by simp) (hR timedOut message)
  | _ =>
    refine .smooth (by simp [Entry.isRefusal, Fault.isRefusal]) ?_
    intro e he
    cases he
    rfl

theorem isRefusal_answered {b : Browser} {c : Call} {reply : Reply} (h : reply.isFault = false) :
    (Entry.answered b c reply).isRefusal = false := by
  cases reply with
  | raised => cases h
  | _ => rfl

theorem isTold_ok (a : α) : IsTold (.ok a : Except Fault α) := by
  intro e he
  cases he

theorem isTold_foreign (kind message : String) : IsTold (.error (.foreign kind message) : Except Fault α) := by
  intro e he
  cases he
  rfl

end

end Browser

namespace Work

open Browser

/-- Work that heeds refusals and changes nothing of a browser but its random source. -/
structure Heeds {α : Type} (R : Call → Bool → String → Fault → Prop) (b : Browser) (w : Work α) : Prop where
  leaves : ∀ random, (w { b with random }).Leaves fun l c r =>
    Browser.Heeds R l r ∧ ∃ random', c = { b with random := random' }

namespace Heeds

variable {α β : Type} {R : Call → Bool → String → Fault → Prop} {b : Browser}

theorem ofExcept {r : Except Fault α} (hr : IsTold r) : (Work.ofExcept r).Heeds R b :=
  ⟨fun random => ⟨.smooth (by simp) hr, random, rfl⟩⟩

theorem pure (a : α) : (Pure.pure a : Work α).Heeds R b := ofExcept (isTold_ok a)

theorem bind {w : Work α} {f : α → Work β} (hw : w.Heeds R b) (hf : ∀ a, (f a).Heeds R b) : (w >>= f).Heeds R b := by
  constructor
  intro random
  refine Program.Leaves.andThen (hw.leaves random) ?_ ?_
  · intro l c a ⟨hl, random', hc⟩
    subst hc
    refine Program.Leaves.mono ((hf a).leaves random') ?_
    intro l' c' r ⟨hl', hc'⟩
    exact ⟨hl'.behind hl.smooth_of_ok, hc'⟩
  · intro l c e ⟨hl, hc⟩
    exact ⟨hl.passed_on, hc⟩

theorem withBrowser {f : Browser → Work α} (hf : ∀ random, (f { b with random }).Heeds R b) : (browser >>= f).Heeds R b :=
  ⟨fun random => (hf random).leaves random⟩

theorem draw (d : Draw α) : (Work.draw d).Heeds R b := by
  constructor
  intro random
  exact ⟨.smooth (by simp) (isTold_ok _), (d random).2, rfl⟩

theorem call {c : Call} (hR : ∀ timedOut message, R c timedOut message (.browser timedOut message)) :
    (Work.call c).Heeds R b := by
  constructor
  intro random reply
  cases reply with
  | raised f => exact ⟨heeds_raised hR f, random, rfl⟩
  | _ => exact ⟨.smooth (by simp [Entry.isRefusal]) (isTold_ok _), random, rfl⟩

theorem tell {c : Call} (hR : ∀ timedOut message, R c timedOut message (.browser timedOut message)) :
    (Work.tell c).Heeds R b := (call hR).bind fun _ => pure ()

theorem value {c : Call} (hR : ∀ timedOut message, R c timedOut message (.browser timedOut message)) :
    (Work.value c).Heeds R b := by
  refine (call hR).bind fun reply => ?_
  cases reply <;> exact pure _

theorem ite {q : Prop} [Decidable q] {v w : Work α} (hv : v.Heeds R b) (hw : w.Heeds R b) :
    (if q then v else w).Heeds R b := by
  by_cases hq : q
  · rwa [if_pos hq]
  · rwa [if_neg hq]

theorem pause (hR : ∀ s timedOut message, R (.sleep s) timedOut message (.browser timedOut message)) (least greatest : Nat) :
    (Work.pause least greatest).Heeds R b := by
  refine withBrowser fun random => (draw _).bind fun (_, seconds) => ?_
  cases seconds with
  | some s => exact tell (hR s)
  | none => exact pure ()

theorem rephrase {w : Work α} {g : Bool → Fault → StepFault} (hw : w.Heeds Raw b)
    (hR : ∀ c timedOut message, c.opensPage = false → R c timedOut message (.step (g timedOut (.browser timedOut message)))) :
    (Work.rephrase w (onRefusal g)).Heeds R b := by
  constructor
  intro random
  refine Program.Leaves.orElse (hw.leaves random) ?_ ?_
  · intro l c a ⟨hl, hc⟩
    exact ⟨.smooth hl.smooth_of_ok (isTold_ok a), hc⟩
  · intro l c e ⟨hl, hc⟩
    show _ ∧ _
    rw [List.append_nil]
    exact ⟨hl.rephrased hR, hc⟩

end Heeds

end Work

namespace Browser

open Work

/-! ## Faults that are no refusals -/

section
variable {α β : Type}

theorem IsTold.bind {r : Except Fault α} {f : α → Except Fault β} (hr : IsTold r) (hf : ∀ a, IsTold (f a)) :
    IsTold (r >>= f) := by
  cases r with
  | ok a => exact hf a
  | error e =>
    intro e' he
    cases he
    exact hr e rfl

theorem isTold_mapM {f : α → Except Fault β} (hf : ∀ a, IsTold (f a)) (l : List α) : IsTold (l.mapM f) := by
  induction l with
  | nil => exact isTold_ok []
  | cons a l ih =>
    rw [List.mapM_cons]
    exact (hf a).bind fun b => ih.bind fun bs => isTold_ok (b :: bs)

theorem isTold_readRows (v : Json) : IsTold (readRows v) := by
  rw [readRows]
  refine IsTold.bind ?_ fun rows => isTold_mapM (fun row => ?_) rows
  · cases v with
    | arr rows => exact isTold_ok rows
    | obj | str => exact isTold_ok _
    | null | bool | int | num => exact isTold_foreign _ _
  · cases Extract.read row with
    | ok e => exact isTold_ok e
    | error p => exact isTold_foreign _ _

theorem isTold_measure (box : Json) (name : String) : IsTold (measure box name) := by
  cases box with
  | obj members =>
    rw [measure]
    split
    · exact isTold_ok _
    · exact isTold_ok _
    · exact isTold_ok _
    · exact isTold_foreign _ _
    · exact isTold_foreign _ _
  | null | bool | int | num | str | arr => exact isTold_foreign _ _

theorem isTold_share (d : Amount) (bursts : Nat) : IsTold (share d bursts) := by
  cases d with
  | part x => exact isTold_ok _
  | whole n =>
    rw [share]
    split
    · exact isTold_foreign _ _
    · exact isTold_ok _

theorem isTold_holdFor (ms : Int) : IsTold (Pacer.holdFor ms) := by
  rw [Pacer.holdFor]
  by_cases hms : 0 < ms
  · rw [if_pos hms]
    split
    · exact isTold_foreign _ _
    · exact isTold_ok _
  · rw [if_neg hms]
    exact isTold_ok none

end

/-! ## The parts of primitives -/

section
variable {b : Browser}

theorem raw {c : Call} (hc : c.opensPage = false) (timedOut : Bool) (message : String) :
    Raw c timedOut message (.browser timedOut message) := ⟨hc, rfl⟩

theorem pause_raw (least greatest : Nat) : (pause least greatest).Heeds Raw b := .pause (fun _ => raw rfl) least greatest

theorem nearMiddle_heeds (box : Json) (start length : String) : (nearMiddle box start length).Heeds Raw b := by
  refine .bind (.ofExcept (isTold_measure _ _)) fun low => .bind (.ofExcept (isTold_measure _ _)) fun span => ?_
  exact .bind (.draw _) fun jitter => .pure _

theorem follow_heeds (page : Page) (points : List Point) : (follow page points).Heeds Raw b := by
  induction points with
  | nil => exact .pure ()
  | cons p points ih => exact .bind (.tell (raw rfl)) fun _ => .bind (pause_raw ..) fun _ => ih

theorem clickInBox_heeds (page : Page) (selector : String) (box : Json) : (clickInBox page selector box).Heeds Raw b := by
  refine .bind (.draw _) fun x => .bind (.draw _) fun y => ?_
  refine .bind (nearMiddle_heeds ..) fun targetX => .bind (nearMiddle_heeds ..) fun targetY => ?_
  refine .bind (.tell (raw rfl)) fun _ => .bind (pause_raw ..) fun _ => .bind (.draw _) fun steps => ?_
  refine .bind (follow_heeds ..) fun _ => .bind (pause_raw ..) fun _ => .withBrowser fun _ => ?_
  exact .bind (.tell (raw rfl)) fun _ => pause_raw ..

theorem typeChars_heeds (page : Page) (chars : List Char) : (typeChars page chars).Heeds Raw b := by
  induction chars with
  | nil => exact .pure ()
  | cons c chars ih =>
    refine .bind (.tell (raw rfl)) fun _ => .bind (pause_raw ..) fun _ => .bind (.draw _) fun slow => ?_
    exact .ite (.bind (pause_raw ..) fun _ => ih) ih

theorem turnWheel_heeds (page : Page) (delta : Binary64) (n : Nat) : (turnWheel page delta n).Heeds Raw b := by
  induction n with
  | zero => exact .pure ()
  | succ n ih =>
    refine .bind (.tell (raw rfl)) fun _ => .withBrowser fun _ => ?_
    exact .ite (.bind (pause_raw ..) fun _ => ih) ih

end

/-! ## Opening the page -/

/-- The browser stays as it is, but for its random source and the page that was
opened. -/
structure Keeps (id : String) (b : Browser) (l : List Entry) (c : Browser) : Prop where
  rest : c = { b with random := c.random, pages := c.pages }
  pages : c.pages = b.pages ∨ ∃ page, b.pages.lookup (pageName id) = none ∧ c.pages = b.pages ++ [(pageName id, page)] ∧
    ∃ b' reply, .answered b' .newPage reply ∈ l ∧ reply.isFault = false ∧ ∀ p, reply = .page p → page = p

theorem Keeps.same (id : String) (b : Browser) (l : List Entry) : Keeps id b l b := ⟨rfl, .inl rfl⟩

theorem Keeps.later {id : String} {b c : Browser} {l : List Entry} (h : Keeps id b l c) (l' : List Entry) (random : Twister) :
    Keeps id b (l ++ l') { c with random } where
  rest := by
    rw [h.rest]
  pages := by
    refine h.pages.imp_right ?_
    intro ⟨page, hnone, hpages, b', reply, hmem, hreply⟩
    exact ⟨page, hnone, hpages, b', reply, List.mem_append_left _ hmem, hreply⟩

section
variable {p : Primitive} {id : String} {b : Browser}

theorem keepPage_heeds {page : Page} {reply : Reply} (hreply : reply.isFault = false) (hpage : ∀ p, reply = .page p → page = p)
    (hnone : b.pages.lookup (pageName id) = none) : ((do
      tell (.setTimeout page b.timeoutMs)
      tell (.setNavigationTimeout page b.timeoutMs)
      Work.modify fun b => { b with pages := b.pages ++ [(pageName id, page)] }
      pure page : Work Page) b).Leaves fun l c r =>
        Heeds (p.Tells id b.timeoutMs) (.answered b .newPage reply :: l) r ∧ Keeps id b (.answered b .newPage reply :: l) c := by
  have hraw (c : Call) (hc : c.setsTimeout = true) (timedOut : Bool) (message : String) :
      p.Tells id b.timeoutMs c timedOut message (.browser timedOut message) := .inr (.inl ⟨hc, rfl⟩)
  have hnew := isRefusal_answered (b := b) (c := .newPage) hreply
  refine leaves_tell (fun f => ?_) fun reply₁ hreply₁ => leaves_tell (fun f => ?_) fun reply₂ hreply₂ => ?_
  · exact ⟨(heeds_raised (hraw _ rfl) f).behind (l := [_]) (by simp [hnew]), .same ..⟩
  · have htime := isRefusal_answered (b := b) (c := .setTimeout page b.timeoutMs) hreply₁
    exact ⟨(heeds_raised (hraw _ rfl) f).behind (l := [_, _]) (by simp [hnew, htime]), .same ..⟩
  · refine ⟨.smooth ?_ (isTold_ok page), rfl, .inr ⟨page, hnone, rfl, b, reply, ?_⟩⟩
    · simp [hreply, hreply₁, hreply₂, isRefusal_answered]
    · exact ⟨List.mem_cons_self .., hreply, hpage⟩

theorem openPage_heeds : (openPage id b).Leaves fun l c r =>
    Heeds (p.Tells id b.timeoutMs) l r ∧ Keeps id b l c := by
  have hnil : ∀ x ∈ ([] : List Entry), x.isRefusal = false := by simp
  rw [openPage, browser_bind]
  by_cases hl : b.isLaunched = true
  · rw [if_neg (by simp [hl])]
    dsimp only
    cases hlookup : b.pages.lookup (pageName id) with
    | some page => exact ⟨.smooth hnil (isTold_ok page), .same ..⟩
    | none =>
      intro reply
      cases reply with
      | raised f =>
        refine ⟨heeds_rephrased ?_ f, .same ..⟩
        intro timedOut message
        exact .inr (.inr ⟨_, rfl, rfl⟩)
      | page page =>
        apply keepPage_heeds rfl _ hlookup
        intro page' h
        cases h
        rfl
      | value | image =>
        apply keepPage_heeds rfl _ hlookup
        intro page' h
        cases h
  · rw [if_pos (by simpa using hl)]
    refine ⟨.smooth hnil ?_, .same ..⟩
    intro e he
    cases he
    rfl

theorem onPage_heeds {α : Type} {f : Page → Work α}
    (hf : ∀ page b', b'.timeoutMs = b.timeoutMs → (f page).Heeds (p.Tells id b.timeoutMs) b') :
    ((openPage id >>= f) b).Leaves fun l c r => Heeds (p.Tells id b.timeoutMs) l r ∧ Keeps id b l c := by
  refine Program.Leaves.andThen (openPage_heeds (p := p)) ?_ ?_
  · intro l c page ⟨hl, hc⟩
    have hms : c.timeoutMs = b.timeoutMs := by rw [hc.rest]
    refine Program.Leaves.mono ((hf page c hms).leaves c.random) ?_
    intro l' c' r ⟨hl', random, hc'⟩
    subst hc'
    exact ⟨hl'.behind hl.smooth_of_ok, hc.later l' random⟩
  · intro l c e ⟨hl, hc⟩
    exact ⟨hl.passed_on, hc⟩

end

/-! ## Primitives -/

theorem holdOn_heeds {p : Primitive} {id : String} {b : Browser} {length : Except Fault (Option Binary64)}
    (hlength : IsTold length) : (holdOn id length b).Leaves fun l c r => Heeds (p.Tells id b.timeoutMs) l r ∧ Keeps id b l c := by
  refine onPage_heeds fun page b' _ => .bind (.ofExcept hlength) fun seconds => ?_
  cases seconds with
  | some s => exact .tell (p.tells_sleep id _ s · · _)
  | none => exact .pure ()

theorem turnWheel_told {direction : String} {distance : Option Amount} {id : String} {ms : Nat} {b : Browser} (page : Page)
    (delta : Binary64) (n : Nat) : (rephrase (turnWheel page delta n) (onRefusal fun _ f =>
      .scriptFailed ("Scroll failed: " ++ headline f) "")).Heeds (Primitive.Tells (.scroll direction distance) id ms) b :=
  .rephrase (turnWheel_heeds ..) fun _ _ _ hc => Primitive.tells_of_told hc rfl

theorem scroll_heeds (name : String) (distance : Option Amount) (direction : ScrollDirection) (id : String) (b : Browser) :
    (scroll direction distance id b).Leaves fun l c r =>
      Heeds ((Primitive.scroll name distance).Tells id b.timeoutMs) l r ∧ Keeps id b l c := by
  refine onPage_heeds fun page b' _ => ?_
  dsimp only
  cases distance with
  | none =>
    refine .bind (.draw _) fun _ => .bind (.pure _) fun d => .withBrowser fun _ => .ite ?_ ?_
    · exact .bind (.draw _) fun _ => .bind (.ofExcept (isTold_share _ _)) fun _ => turnWheel_told ..
    · exact .bind (.pure _) fun _ => .bind (.ofExcept (isTold_share _ _)) fun _ => turnWheel_told ..
  | some d =>
    refine .bind (.pure d) fun d => .withBrowser fun _ => .ite ?_ ?_
    · exact .bind (.draw _) fun _ => .bind (.ofExcept (isTold_share _ _)) fun _ => turnWheel_told ..
    · exact .bind (.pure _) fun _ => .bind (.ofExcept (isTold_share _ _)) fun _ => turnWheel_told ..

theorem Primitive.work_heeds (p : Primitive) (id : String) (b : Browser) : (p.work id b).Leaves fun l c r =>
    Heeds (p.Tells id b.timeoutMs) l r ∧ Keeps id b l c := by
  cases p with
  | navigate url =>
    refine onPage_heeds fun page b' hms => .withBrowser fun random => ?_
    refine .bind (.rephrase (.tell (raw rfl)) fun c timedOut message hc => ?_) fun _ => ?_
    · rw [← hms]
      exact tells_of_told hc rfl
    · exact .ite (.pause (fun s timedOut message => Primitive.tells_sleep ..) ..) (.pure ())
  | click selector =>
    refine onPage_heeds fun page b' _ => .withBrowser fun random => ?_
    refine .rephrase ?_ fun c timedOut message hc => tells_of_told hc rfl
    have hclick (box : Json) : (if isPlaced box then clickInBox page selector box else
        tell (.click page selector b'.timeoutMs)).Heeds Raw b' := .ite (clickInBox_heeds ..) (.tell (raw rfl))
    exact .ite (.bind (.value (raw rfl)) hclick) (.bind (.pure _) hclick)
  | type selector text =>
    refine onPage_heeds fun page b' _ => .withBrowser fun random => ?_
    refine .rephrase ?_ fun c timedOut message hc => tells_of_told hc rfl
    refine .bind (.tell (raw rfl)) fun _ => .ite (.bind (pause_raw ..) fun _ => ?_) (.tell (raw rfl))
    exact .bind (typeChars_heeds ..) fun _ => pause_raw ..
  | scroll direction distance =>
    change (scrollTowards direction distance id b).Leaves _
    unfold scrollTowards
    split
    · exact scroll_heeds ..
    · exact scroll_heeds ..
    · exact ⟨.smooth (by simp) (isTold_foreign _ _), .same ..⟩
  | waitForSelector selector =>
    refine onPage_heeds fun page b' hms => .withBrowser fun random => ?_
    refine .rephrase (.tell (raw rfl)) fun c timedOut message hc => ?_
    rw [← hms]
    exact tells_of_told hc rfl
  | waitFor ms => exact holdOn_heeds (isTold_holdFor ms)
  | waitForPart ms => exact holdOn_heeds (isTold_ok _)
  | extract selector =>
    refine onPage_heeds fun page b' _ => .bind (.rephrase (.value (raw rfl)) fun c timedOut message hc => ?_) fun rows => ?_
    · exact tells_of_told hc rfl
    · exact .ofExcept (isTold_readRows rows)
  | screenshot fullPage =>
    refine onPage_heeds fun page b' _ => .bind (.rephrase (.call (raw rfl)) fun c timedOut message hc => ?_) fun reply => ?_
    · exact tells_of_told hc rfl
    · cases reply <;> exact .pure _
  | evaluate code =>
    exact onPage_heeds fun page b' _ => .rephrase (.value (raw rfl)) fun c timedOut message hc => tells_of_told hc rfl
  | content =>
    exact onPage_heeds fun page b' _ => .rephrase (.value (raw rfl)) fun c timedOut message hc => tells_of_told hc rfl

end Browser

end BrowserPilot
