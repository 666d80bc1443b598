import BrowserPilot.Browser.Primitives
import BrowserPilot.Proofs.Browser.Handles

/-!
# The calls that work makes

What work may ask for, however it is answered. Primitives and closing start no
process. A launch does, once, as soon as the driver has been started.
-/

namespace BrowserPilot

def Call.launch? : Call → Option LaunchOptions
  | .launch options => some options
  | _ => none

/-! ## Work that asks only for some calls -/

namespace Program

variable {α β : Type} {P : Call → Prop}

/-- However its calls are answered, work makes only such calls. -/
def AsksOnly (P : Call → Prop) : Program α → Prop
  | .done _ _ => True
  | .ask _ c next => P c ∧ ∀ reply, (next reply).AsksOnly P

theorem AsksOnly.andThen {f : Browser → α → Program β} (hf : ∀ b a, (f b a).AsksOnly P) :
    ∀ {p : Program α}, p.AsksOnly P → (p.andThen f).AsksOnly P
  | .done b (.ok a), _ => hf b a
  | .done _ (.error _), _ => trivial
  | .ask _ _ _, h => ⟨h.1, fun reply => AsksOnly.andThen hf (h.2 reply)⟩

theorem AsksOnly.orElse {f : Browser → Fault → Program α} (hf : ∀ b e, (f b e).AsksOnly P) :
    ∀ {p : Program α}, p.AsksOnly P → (p.orElse f).AsksOnly P
  | .done _ (.ok _), _ => trivial
  | .done b (.error e), _ => hf b e
  | .ask _ _ _, h => ⟨h.1, fun reply => AsksOnly.orElse hf (h.2 reply)⟩

end Program

namespace Work

variable {α β : Type} {P : Call → Prop}

/-- Whatever the browser it starts with, work makes only such calls. -/
structure AsksOnly (P : Call → Prop) (w : Work α) : Prop where
  program : ∀ b, (w b).AsksOnly P

namespace AsksOnly

theorem pure (a : α) : (Pure.pure a : Work α).AsksOnly P := ⟨fun _ => trivial⟩

theorem bind {w : Work α} {f : α → Work β} (hw : w.AsksOnly P) (hf : ∀ a, (f a).AsksOnly P) : (w >>= f).AsksOnly P :=
  ⟨fun b => (hw.program b).andThen fun b a => (hf a).program b⟩

theorem raise {f : Fault} : (Work.raise f : Work α).AsksOnly P := ⟨fun _ => trivial⟩

theorem ofExcept {r : Except Fault α} : (Work.ofExcept r).AsksOnly P := ⟨fun _ => trivial⟩

theorem browser : Work.browser.AsksOnly P := ⟨fun _ => trivial⟩

theorem modify {f : Browser → Browser} : (Work.modify f).AsksOnly P := ⟨fun _ => trivial⟩

theorem draw {d : Draw α} : (Work.draw d).AsksOnly P := ⟨fun _ => trivial⟩

theorem recover {w : Work α} {f : Fault → Work α} (hw : w.AsksOnly P) (hf : ∀ e, (f e).AsksOnly P) :
    (Work.recover w f).AsksOnly P :=
  ⟨fun b => (hw.program b).orElse fun b e => (hf e).program b⟩

theorem rephrase {w : Work α} {f : Fault → Fault} (hw : w.AsksOnly P) : (Work.rephrase w f).AsksOnly P :=
  hw.recover fun _ => .raise

theorem ignoreFaults {w : Work Unit} (hw : w.AsksOnly P) : (Work.ignoreFaults w).AsksOnly P := hw.recover fun _ => .pure ()

theorem call {c : Call} (hc : P c) : (Work.call c).AsksOnly P := ⟨fun _ => ⟨hc, fun _ => trivial⟩⟩

theorem tell {c : Call} (hc : P c) : (Work.tell c).AsksOnly P := (call hc).bind fun _ => .pure ()

theorem value {c : Call} (hc : P c) : (Work.value c).AsksOnly P := by
  refine (call hc).bind fun r => ?_
  cases r <;> exact .pure _

theorem ite {q : Prop} [Decidable q] {v w : Work α} (hv : v.AsksOnly P) (hw : w.AsksOnly P) :
    (if q then v else w).AsksOnly P := by
  split
  · exact hv
  · exact hw

theorem pause (hP : ∀ s, P (.sleep s)) (least greatest : Nat) : (Work.pause least greatest).AsksOnly P := by
  refine .bind .browser fun b => .bind .draw fun (_, seconds) => ?_
  cases seconds with
  | some s => exact .tell (hP s)
  | none => exact .pure ()

end AsksOnly

abbrev LaunchesNothing (w : Work α) : Prop := w.AsksOnly fun c => c.launch? = none

end Work

namespace Browser

open Work

/-! ## Primitives and closing -/

theorem openPage_launches (id : String) : (openPage id).LaunchesNothing := by
  refine .bind .browser fun b => .ite .raise ?_
  dsimp only
  cases b.pages.lookup (pageName id) with
  | some page => exact .pure page
  | none =>
    refine .bind (.rephrase (.call rfl)) fun reply => .bind (.tell rfl) fun _ => .bind (.tell rfl) fun _ => ?_
    exact .bind .modify fun _ => .pure _

theorem pause_launches (least greatest : Nat) : (pause least greatest).LaunchesNothing :=
  .pause (fun _ => rfl) least greatest

theorem navigate_launches (url id : String) : (navigate url id).LaunchesNothing :=
  .bind (openPage_launches id) fun _ => .bind .browser fun _ => .bind (.rephrase (.tell rfl)) fun _ =>
    .ite (pause_launches ..) (.pure ())

theorem waitForSelector_launches (selector id : String) : (waitForSelector selector id).LaunchesNothing :=
  .bind (openPage_launches id) fun _ => .bind .browser fun _ => .rephrase (.tell rfl)

theorem waitFor_launches (ms : Int) (id : String) : (waitFor ms id).LaunchesNothing := by
  refine .bind (openPage_launches id) fun _ => .bind .ofExcept fun s => ?_
  cases s with
  | some s => exact .tell rfl
  | none => exact .pure ()

theorem screenshot_launches (fullPage : Bool) (id : String) : (screenshot fullPage id).LaunchesNothing := by
  refine .bind (openPage_launches id) fun _ => .bind (.rephrase (.call rfl)) fun reply => ?_
  cases reply <;> exact .pure _

theorem extract_launches (selector id : String) : (extract selector id).LaunchesNothing :=
  .bind (openPage_launches id) fun _ => .bind (.rephrase (.value rfl)) fun _ => .ofExcept

theorem nearMiddle_launches (box : Json) (start length : String) : (nearMiddle box start length).LaunchesNothing :=
  .bind .ofExcept fun _ => .bind .ofExcept fun _ => .bind .draw fun _ => .pure _

theorem follow_launches (page : Page) : ∀ points : List Point, (follow page points).LaunchesNothing
  | [] => .pure ()
  | _ :: rest => .bind (.tell rfl) fun _ => .bind (pause_launches ..) fun _ => follow_launches page rest

theorem clickInBox_launches (page : Page) (selector : String) (box : Json) :
    (clickInBox page selector box).LaunchesNothing := by
  refine .bind .draw fun _ => .bind .draw fun _ => .bind (nearMiddle_launches ..) fun _ => ?_
  refine .bind (nearMiddle_launches ..) fun _ => .bind (.tell rfl) fun _ => .bind (pause_launches ..) fun _ => ?_
  refine .bind .draw fun _ => .bind (follow_launches ..) fun _ => .bind (pause_launches ..) fun _ => ?_
  exact .bind .browser fun _ => .bind (.tell rfl) fun _ => pause_launches ..

theorem click_launches (selector id : String) : (click selector id).LaunchesNothing := by
  refine .bind (openPage_launches id) fun page => .bind .browser fun b => ?_
  dsimp only
  have hclick : ∀ box, (if isPlaced box = true then clickInBox page selector box else
      tell (.click page selector b.timeoutMs)).LaunchesNothing := fun box =>
    .ite (clickInBox_launches page selector box) (.tell rfl)
  exact .rephrase (.ite (.bind (.value rfl) hclick) (.bind (.pure _) hclick))

theorem typeChars_launches (page : Page) : ∀ chars : List Char, (typeChars page chars).LaunchesNothing
  | [] => .pure ()
  | _ :: rest => by
    have hrest := typeChars_launches page rest
    refine .bind (.tell rfl) fun _ => .bind (pause_launches ..) fun _ => .bind .draw fun _ => ?_
    exact .ite (.bind (pause_launches ..) fun _ => hrest) hrest

theorem type_launches (selector text id : String) : (type selector text id).LaunchesNothing := by
  refine .bind (openPage_launches id) fun page => .bind .browser fun b => ?_
  dsimp only
  refine .rephrase (.bind (.tell rfl) fun _ => .ite (.bind (pause_launches ..) fun _ => ?_) (.tell rfl))
  exact .bind (typeChars_launches page _) fun _ => pause_launches ..

theorem turnWheel_launches (page : Page) (delta : Binary64) : ∀ n : Nat, (turnWheel page delta n).LaunchesNothing
  | 0 => .pure ()
  | n + 1 => by
    have hrest := turnWheel_launches page delta n
    exact .bind (.tell rfl) fun _ => .bind .browser fun _ => .ite (.bind (pause_launches ..) fun _ => hrest) hrest

theorem scroll_launches (direction : ScrollDirection) (given : Option Amount) (id : String) :
    (scroll direction given id).LaunchesNothing := by
  refine .bind (openPage_launches id) fun page => ?_
  dsimp only
  cases given with
  | none =>
    refine .bind .draw fun _ => .bind (.pure _) fun d => .bind .browser fun _ => .ite ?_ ?_
    · exact .bind .draw fun _ => .bind .ofExcept fun _ => .rephrase (turnWheel_launches ..)
    · exact .bind (.pure _) fun _ => .bind .ofExcept fun _ => .rephrase (turnWheel_launches ..)
  | some d =>
    refine .bind (.pure d) fun d => .bind .browser fun _ => .ite ?_ ?_
    · exact .bind .draw fun _ => .bind .ofExcept fun _ => .rephrase (turnWheel_launches ..)
    · exact .bind (.pure _) fun _ => .bind .ofExcept fun _ => .rephrase (turnWheel_launches ..)

/-- **No primitive starts a process.** -/
theorem perform_launches (a : Action) : (perform a).LaunchesNothing := by
  cases a with
  | navigate url => exact .bind (navigate_launches ..) fun _ => .pure _
  | click selector => exact .bind (click_launches ..) fun _ => .pure _
  | type selector text => exact .bind (type_launches ..) fun _ => .pure _
  | wait kind ms selector =>
    cases kind with
    | selector => exact .bind (waitForSelector_launches ..) fun _ => .pure _
    | time => exact .bind (waitFor_launches ..) fun _ => .pure _
  | extract selector => exact .bind (extract_launches ..) fun _ => .pure _
  | screenshot fullPage => exact .bind (screenshot_launches ..) fun _ => .pure _
  | scroll position direction => cases position <;> exact .bind (scroll_launches ..) fun _ => .pure _

theorem closePages_launches : ∀ pages : List (String × Page), (closePages pages).LaunchesNothing
  | [] => .pure ()
  | _ :: rest => .bind (.ignoreFaults (.tell rfl)) fun _ => closePages_launches rest

theorem closeContext_launches : closeContext.LaunchesNothing := by
  have hclose : (ignoreFaults (tell .closeContext)).LaunchesNothing := .ignoreFaults (.tell rfl)
  refine .bind .browser fun b => .ite (.bind .modify fun _ => ?_) (.pure ())
  dsimp only
  exact .ite (.bind (.ignoreFaults (.tell rfl)) fun _ => hclose) hclose

theorem closeProcess_launches : closeProcess.LaunchesNothing :=
  .bind .browser fun _ => .ite (.bind .modify fun _ => .ignoreFaults (.tell rfl)) (.pure ())

theorem stopDriver_launches : stopDriver.LaunchesNothing :=
  .bind .browser fun _ => .ite (.bind .modify fun _ => .ignoreFaults (.tell rfl)) (.pure ())

theorem close_launches : close.LaunchesNothing := by
  refine .bind .browser fun b => .ite (.bind .modify fun _ => .bind (closePages_launches _) fun _ => ?_) (.pure ())
  exact .bind closeContext_launches fun _ => .bind closeProcess_launches fun _ => stopDriver_launches

/-! ## Starting -/

/-- A launch starts the driver, and then a process that goes through the next
proxy, if the driver has come up. -/
theorem launch_eq {b : Browser} (hb : b.IsClosed) (profile : Profile) : ∃ b₀ next,
    launch (some profile) b = .ask b₀ .start next ∧ (∀ f, ∃ b' e, next (.raised f) = .done b' (.error e)) ∧
      ∀ reply, reply.isFault = false → ∃ b' next',
        next reply = .ask b' (.launch ⟨b.headless, b.sandbox, (b.proxies.next b.random).1.1⟩) next' ∧
          ∀ reply, (next' reply).AsksOnly fun c => c.launch? = none := by
  let b₀ : Browser := { b with random := (b.proxies.next b.random).2, proxies := (b.proxies.next b.random).1.2 }
  let b₁ : Browser := { b₀ with isStarted := true }
  let refuse (f : Fault) : Work Unit := do
    close
    raise (.sessionInit ("Browser failed to start: " ++ f.message))
  let finish : Work Profile := do
    Work.modify fun b => { b with isLaunched := true, profile := some profile }
    pure profile
  let context : Work Unit := do
    Work.modify fun b => { b with isRunning := true }
    tell (.newContext ⟨profile, b.videoDirectory⟩)
    tell (.addInitScript (InitScript.build profile b.countermeasures))
  have hrefuse : ∀ f, (refuse f).LaunchesNothing := fun f => .bind close_launches fun _ => .raise
  have hfinish : finish.LaunchesNothing := .bind .modify fun _ => .pure _
  have hcontext : context.LaunchesNothing := .bind .modify fun _ => .bind (.tell rfl) fun _ => .tell rfl
  have hrest : ∀ {w : Work Unit}, w.LaunchesNothing → ∀ b, (((w b).orElse fun b f => refuse f b).andThen
      fun b _ => finish b).AsksOnly fun c => c.launch? = none := fun hw b =>
    (hw.recover hrefuse).bind (fun _ => hfinish) |>.program b
  change ∃ b₀ next, (if b.isStarted = true then raise alreadyLaunched else _ : Work Profile) b = _ ∧ _
  rw [hb.driver, if_neg Bool.false_ne_true]
  refine ⟨b₀, _, rfl, fun f => ?_, fun reply hreply => ⟨b₁, ?_⟩⟩
  · -- nothing is held yet that could be given back
    have hclose : close b₀ = .done b₀ (.ok ()) := IsClosed.close_eq ⟨hb.driver, hb.process, hb.context⟩
    refine ⟨b₀, .sessionInit ("Browser failed to start: " ++ f.message), ?_⟩
    change Program.andThen _ ((close b₀).andThen _) = _
    rw [hclose]
    rfl
  · cases reply with
    | raised f => cases hreply
    | _ =>
      refine ⟨_, rfl, fun reply' => ?_⟩
      cases reply' with
      | raised f => exact hrest (w := raise f) .raise b₁
      | _ => exact hrest hcontext b₁

end Browser

end BrowserPilot
