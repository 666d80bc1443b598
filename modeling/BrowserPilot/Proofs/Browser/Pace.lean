import BrowserPilot.Browser.Primitives
import BrowserPilot.Proofs.Browser.Handles

/-!
# Work at another pace

A pause draws its length at any pace, so that browsers at different paces draw
alike. What they ask for is the same but for sleeps, and so is what it comes to.
-/

namespace BrowserPilot

def Browser.atPace (p : Pacer) (b : Browser) : Browser := { b with pacer := p }

namespace Program

variable {α β : Type} {p : Pacer} {x x' : Program α}

/-- Two programs keep step, the second at pace `p`: they ask for the same and come
to the same, but each may sleep while the other waits for it. -/
inductive KeepsStep (p : Pacer) : Program α → Program α → Prop where
  | done (b : Browser) (r : Except Fault α) : KeepsStep p (.done b r) (.done (b.atPace p) r)
  | ask (b : Browser) (c : Call) {next next' : Reply → Program α} (h : ∀ r, KeepsStep p (next r) (next' r)) :
    KeepsStep p (.ask b c next) (.ask (b.atPace p) c next')
  | sleep (b : Browser) (seconds : Binary64) {next : Reply → Program α} {x' : Program α}
    (h : ∀ r, r.isFault = false → KeepsStep p (next r) x') : KeepsStep p (.ask b (.sleep seconds) next) x'
  | sleep' (b : Browser) (seconds : Binary64) {x : Program α} {next' : Reply → Program α}
    (h : ∀ r, r.isFault = false → KeepsStep p x (next' r)) : KeepsStep p x (.ask b (.sleep seconds) next')

theorem KeepsStep.andThen {f f' : Browser → α → Program β} (hf : ∀ b a, (f b a).KeepsStep p (f' (b.atPace p) a))
    (h : x.KeepsStep p x') : (x.andThen f).KeepsStep p (x'.andThen f') := by
  induction h with
  | done b r =>
    cases r with
    | ok a => exact hf b a
    | error e => exact .done b _
  | ask b c _ ih => exact .ask b c ih
  | sleep b seconds _ ih => exact .sleep b seconds ih
  | sleep' b seconds _ ih => exact .sleep' b seconds ih

theorem KeepsStep.orElse {f f' : Browser → Fault → Program α} (hf : ∀ b e, (f b e).KeepsStep p (f' (b.atPace p) e))
    (h : x.KeepsStep p x') : (x.orElse f).KeepsStep p (x'.orElse f') := by
  induction h with
  | done b r =>
    cases r with
    | ok a => exact .done b _
    | error e => exact hf b e
  | ask b c _ ih => exact .ask b c ih
  | sleep b seconds _ ih => exact .sleep b seconds ih
  | sleep' b seconds _ ih => exact .sleep' b seconds ih

end Program

namespace Work

variable {α β : Type}

/-- Work that keeps step with itself at any other pace. -/
structure AnyPace (w : Work α) : Prop where
  program : ∀ p b, (w b).KeepsStep p (w (b.atPace p))

def sleepIf : Option Binary64 → Work Unit
  | some s => sleep s
  | none => pure ()

theorem pause_eq (least greatest : Nat) (b : Browser) :
    let drawn := Draw.uniform (.ofNat least) (.ofNat greatest) b.random
    Work.pause least greatest b = sleepIf (b.pacer.sleepFor? drawn.1) { b with random := drawn.2 } := rfl

theorem sleepIf_keepsStep (seconds seconds' : Option Binary64) (p : Pacer) (b : Browser) :
    (sleepIf seconds b).KeepsStep p (sleepIf seconds' (b.atPace p)) := by
  have hright : Program.KeepsStep p (.done b (.ok ())) (sleepIf seconds' (b.atPace p)) := by
    cases seconds' with
    | none => exact .done b _
    | some s =>
      refine .sleep' _ s fun r hr => ?_
      cases r with
      | raised f => cases hr
      | _ => exact .done b _
  cases seconds with
  | none => exact hright
  | some s =>
    refine .sleep b s fun r hr => ?_
    cases r with
    | raised f => cases hr
    | _ => exact hright

namespace AnyPace

theorem pure (a : α) : (Pure.pure a : Work α).AnyPace := ⟨fun _ b => .done b _⟩

theorem raise {f : Fault} : (Work.raise f : Work α).AnyPace := ⟨fun _ b => .done b _⟩

theorem ofExcept {r : Except Fault α} : (Work.ofExcept r).AnyPace := ⟨fun _ b => .done b r⟩

theorem bind {w : Work α} {f : α → Work β} (hw : w.AnyPace) (hf : ∀ a, (f a).AnyPace) : (w >>= f).AnyPace :=
  ⟨fun p b => (hw.program p b).andThen fun b a => (hf a).program p b⟩

theorem reading {f : Browser → Work α} (hf : ∀ b, (f b).AnyPace) (hsame : ∀ p b, f (b.atPace p) = f b) :
    (Work.browser >>= f).AnyPace := by
  refine ⟨fun p b => ?_⟩
  show (f b b).KeepsStep p (f (b.atPace p) (b.atPace p))
  rw [hsame]
  exact (hf b).program p b

theorem modify {f : Browser → Browser} (hf : ∀ p b, f (b.atPace p) = (f b).atPace p) : (Work.modify f).AnyPace := by
  refine ⟨fun p b => ?_⟩
  show Program.KeepsStep p (.done (f b) _) (.done (f (b.atPace p)) _)
  rw [hf]
  exact .done (f b) _

theorem draw {d : Draw α} : (Work.draw d).AnyPace := ⟨fun _ _ => .done _ _⟩

theorem recover {w : Work α} {f : Fault → Work α} (hw : w.AnyPace) (hf : ∀ e, (f e).AnyPace) :
    (Work.recover w f).AnyPace :=
  ⟨fun p b => (hw.program p b).orElse fun b e => (hf e).program p b⟩

theorem rephrase {w : Work α} {f : Fault → Fault} (hw : w.AnyPace) : (Work.rephrase w f).AnyPace :=
  hw.recover fun _ => .raise

theorem ignoreFaults {w : Work Unit} (hw : w.AnyPace) : (Work.ignoreFaults w).AnyPace := hw.recover fun _ => .pure ()

theorem call (c : Call) : (Work.call c).AnyPace := ⟨fun _ b => .ask b c fun _ => .done b _⟩

theorem tell (c : Call) : (Work.tell c).AnyPace := (call c).bind fun _ => .pure ()

theorem value (c : Call) : (Work.value c).AnyPace := by
  refine (call c).bind fun r => ?_
  cases r <;> exact .pure _

theorem ite {q : Prop} [Decidable q] {v w : Work α} (hv : v.AnyPace) (hw : w.AnyPace) : (if q then v else w).AnyPace := by
  by_cases h : q
  · rwa [if_pos h]
  · rwa [if_neg h]

theorem pause (least greatest : Nat) : (Work.pause least greatest).AnyPace := by
  refine ⟨fun p b => ?_⟩
  rw [pause_eq, pause_eq]
  exact sleepIf_keepsStep _ _ p { b with random := (Draw.uniform (.ofNat least) (.ofNat greatest) b.random).2 }

end AnyPace

end Work

namespace Browser

open Work

/-! ## Primitives -/

theorem openPage_anyPace (id : String) : (openPage id).AnyPace := by
  refine .reading (fun b => .ite .raise ?_) fun _ _ => rfl
  dsimp only
  cases b.pages.lookup (pageName id) with
  | some page => exact .pure page
  | none =>
    refine .bind (.rephrase (.call _)) fun reply => .bind (.tell _) fun _ => .bind (.tell _) fun _ => ?_
    exact .bind (.modify fun _ _ => rfl) fun _ => .pure _

theorem navigate_anyPace (url id : String) : (navigate url id).AnyPace := by
  refine .bind (openPage_anyPace id) fun page => .reading (fun b => ?_) fun _ _ => rfl
  exact .bind (.rephrase (.tell _)) fun _ => .ite (.pause ..) (.pure ())

theorem waitForSelector_anyPace (selector id : String) : (waitForSelector selector id).AnyPace :=
  .bind (openPage_anyPace id) fun _ => .reading (fun _ => .rephrase (.tell _)) fun _ _ => rfl

theorem holdOn_anyPace (id : String) (length : Except Fault (Option Binary64)) : (holdOn id length).AnyPace := by
  refine .bind (openPage_anyPace id) fun _ => .bind .ofExcept fun seconds => ?_
  cases seconds with
  | some s => exact .tell _
  | none => exact .pure ()

theorem screenshot_anyPace (fullPage : Bool) (id : String) : (screenshot fullPage id).AnyPace := by
  refine .bind (openPage_anyPace id) fun _ => .bind (.rephrase (.call _)) fun reply => ?_
  cases reply <;> exact .pure _

theorem extract_anyPace (selector id : String) : (extract selector id).AnyPace :=
  .bind (openPage_anyPace id) fun _ => .bind (.rephrase (.value _)) fun _ => .ofExcept

theorem nearMiddle_anyPace (box : Json) (start length : String) : (nearMiddle box start length).AnyPace :=
  .bind .ofExcept fun _ => .bind .ofExcept fun _ => .bind .draw fun _ => .pure _

theorem follow_anyPace (page : Page) (points : List Point) : (follow page points).AnyPace := by
  induction points with
  | nil => exact .pure ()
  | cons point points ih => exact .bind (.tell _) fun _ => .bind (.pause ..) fun _ => ih

theorem clickInBox_anyPace (page : Page) (selector : String) (box : Json) : (clickInBox page selector box).AnyPace := by
  refine .bind .draw fun _ => .bind .draw fun _ => .bind (nearMiddle_anyPace ..) fun _ => ?_
  refine .bind (nearMiddle_anyPace ..) fun _ => .bind (.tell _) fun _ => .bind (.pause ..) fun _ => ?_
  refine .bind .draw fun _ => .bind (follow_anyPace ..) fun _ => .bind (.pause ..) fun _ => ?_
  exact .reading (fun _ => .bind (.tell _) fun _ => .pause ..) fun _ _ => rfl

theorem click_anyPace (selector id : String) : (click selector id).AnyPace := by
  refine .bind (openPage_anyPace id) fun page => .reading (fun b => ?_) fun _ _ => rfl
  have hclick : ∀ box, (if isPlaced box = true then clickInBox page selector box else
      tell (.click page selector b.timeoutMs)).AnyPace := fun box => .ite (clickInBox_anyPace page selector box) (.tell _)
  exact .rephrase (.ite (.bind (.value _) hclick) (.bind (.pure _) hclick))

theorem typeChars_anyPace (page : Page) (chars : List Char) : (typeChars page chars).AnyPace := by
  induction chars with
  | nil => exact .pure ()
  | cons c chars ih =>
    refine .bind (.tell _) fun _ => .bind (.pause ..) fun _ => .bind .draw fun hesitates => ?_
    exact .ite (.bind (.pause ..) fun _ => ih) ih

theorem type_anyPace (selector text id : String) : (type selector text id).AnyPace := by
  refine .bind (openPage_anyPace id) fun page => .reading (fun b => ?_) fun _ _ => rfl
  refine .rephrase (.bind (.tell _) fun _ => .ite (.bind (.pause ..) fun _ => ?_) (.tell _))
  exact .bind (typeChars_anyPace page _) fun _ => .pause ..

theorem turnWheel_anyPace (page : Page) (delta : Binary64) (n : Nat) : (turnWheel page delta n).AnyPace := by
  induction n with
  | zero => exact .pure ()
  | succ n ih =>
    refine .bind (.tell _) fun _ => .reading (fun b => ?_) fun _ _ => rfl
    exact .ite (.bind (.pause ..) fun _ => ih) ih

theorem scroll_anyPace (direction : ScrollDirection) (given : Option Amount) (id : String) :
    (scroll direction given id).AnyPace := by
  refine .bind (openPage_anyPace id) fun page => ?_
  have hturn : ∀ {sized : Binary64 → Binary64} {worded : Fault → Fault} (d : Amount) (bursts : Nat),
      (ofExcept (share d bursts) >>= fun size => rephrase (turnWheel page (sized size) bursts) worded).AnyPace :=
    fun d bursts => .bind .ofExcept fun size => .rephrase (turnWheel_anyPace ..)
  cases given with
  | none =>
    refine .bind .draw fun _ => .bind (.pure _) fun d => .reading (fun b => .ite ?_ ?_) fun _ _ => rfl
    · exact .bind .draw (hturn d)
    · exact .bind (.pure _) (hturn d)
  | some d =>
    refine .bind (.pure d) fun d => .reading (fun b => .ite ?_ ?_) fun _ _ => rfl
    · exact .bind .draw (hturn d)
    · exact .bind (.pure _) (hturn d)

theorem perform_anyPace (a : Action) : (perform a).AnyPace := by
  cases a with
  | navigate url => exact .bind (navigate_anyPace ..) fun _ => .pure _
  | click selector => exact .bind (click_anyPace ..) fun _ => .pure _
  | type selector text => exact .bind (type_anyPace ..) fun _ => .pure _
  | wait kind ms selector =>
    cases kind with
    | selector => exact .bind (waitForSelector_anyPace ..) fun _ => .pure _
    | time => exact .bind (holdOn_anyPace ..) fun _ => .pure _
  | extract selector => exact .bind (extract_anyPace ..) fun _ => .pure _
  | screenshot fullPage => exact .bind (screenshot_anyPace ..) fun _ => .pure _
  | scroll position direction => cases position <;> exact .bind (scroll_anyPace ..) fun _ => .pure _

/-! ## Closing and starting -/

theorem closePages_anyPace (pages : List (String × Page)) : (closePages pages).AnyPace := by
  induction pages with
  | nil => exact .pure ()
  | cons page pages ih => exact .bind (.ignoreFaults (.tell _)) fun _ => ih

theorem closeContext_anyPace : closeContext.AnyPace := by
  have hclose : (ignoreFaults (tell .closeContext)).AnyPace := .ignoreFaults (.tell _)
  refine .reading (fun b => .ite (.bind (.modify fun _ _ => rfl) fun _ => ?_) (.pure ())) fun _ _ => rfl
  exact .ite (.bind (.ignoreFaults (.tell _)) fun _ => hclose) hclose

theorem closeProcess_anyPace : closeProcess.AnyPace :=
  .reading (fun _ => .ite (.bind (.modify fun _ _ => rfl) fun _ => .ignoreFaults (.tell _)) (.pure ())) fun _ _ => rfl

theorem stopDriver_anyPace : stopDriver.AnyPace :=
  .reading (fun _ => .ite (.bind (.modify fun _ _ => rfl) fun _ => .ignoreFaults (.tell _)) (.pure ())) fun _ _ => rfl

theorem close_anyPace : close.AnyPace := by
  refine .reading (fun b => .ite (.bind (.modify fun _ _ => rfl) fun _ => ?_) (.pure ())) fun _ _ => rfl
  refine .bind (closePages_anyPace _) fun _ => .bind closeContext_anyPace fun _ => ?_
  exact .bind closeProcess_anyPace fun _ => stopDriver_anyPace

theorem startAll_anyPace (options : LaunchOptions) (context : ContextOptions) (script : String) :
    (startAll options context script).AnyPace := by
  refine .bind (.tell _) fun _ => .bind (.modify fun _ _ => rfl) fun _ => .bind (.tell _) fun _ => ?_
  exact .bind (.modify fun _ _ => rfl) fun _ => .bind (.tell _) fun _ => .tell _

theorem launch_anyPace (given : Option Profile) : (launch given).AnyPace := by
  refine .reading (fun b => .ite .raise ?_) fun _ _ => rfl
  cases given
  case' some profile => refine .bind (.pure profile) fun profile => ?_
  case' none => refine .bind .draw fun profile => ?_
  all_goals
    refine .reading (fun b => .bind .draw fun drawn => .bind (.modify fun _ _ => rfl) fun _ => ?_) fun _ _ => rfl
    refine .bind (.recover (startAll_anyPace ..) fun _ => .bind close_anyPace fun _ => .raise) fun _ => ?_
    exact .bind (.modify fun _ _ => rfl) fun _ => .pure _

end Browser

end BrowserPilot
