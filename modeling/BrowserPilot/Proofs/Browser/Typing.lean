import BrowserPilot.Proofs.Browser.Asking
import BrowserPilot.Proofs.Browser.Refusals

/-!
# What is typed

A primitive that types text may fail at any of its calls. Then the characters of
the calls that have been answered stay on the page, which are a first part of
the text; any first part but the whole is possible at human pace.
-/

namespace BrowserPilot

/-! ## Work as it goes -/

namespace Program

variable {α β : Type}

/-- Work ends like this when its calls are answered in some way. -/
inductive Goes : Program α → List Browser.Entry → Browser → Except Fault α → Prop where
  | done (b : Browser) (r : Except Fault α) : Goes (.done b r) [] b r
  | ask {b b' : Browser} {c : Call} {next : Reply → Program α} {l : List Browser.Entry} {r : Except Fault α}
      (reply : Reply) (h : Goes (next reply) l b' r) : Goes (.ask b c next) (.answered b c reply :: l) b' r

section
variable {p : Program α} {l l' : List Browser.Entry} {b b' : Browser}

theorem Leaves.goes {Q : List Browser.Entry → Browser → Except Fault α → Prop} {r : Except Fault α} (hp : p.Leaves Q)
    (h : p.Goes l b r) : Q l b r := by
  induction h generalizing Q with
  | done b r => exact hp
  | ask reply _ ih => exact ih (hp reply)

theorem leaves_goes (p : Program α) : p.Leaves p.Goes := by
  induction p with
  | done b r => exact .done b r
  | ask b c next ih =>
    intro reply
    exact Leaves.mono (ih reply) fun l b' r h => .ask reply h

theorem Goes.andThen {f : Browser → α → Program β} {a : α} {r : Except Fault β} (h : p.Goes l b (.ok a))
    (hf : (f b a).Goes l' b' r) : (p.andThen f).Goes (l ++ l') b' r := by
  generalize hr : (Except.ok a : Except Fault α) = x at h
  induction h with
  | done b x =>
    subst hr
    exact hf
  | ask reply _ ih => exact .ask reply (ih hf hr)

theorem Goes.passed_on {f : Browser → α → Program β} {e : Fault} (h : p.Goes l b (.error e)) :
    (p.andThen f).Goes l b (.error e) := by
  generalize hr : (Except.error e : Except Fault α) = x at h
  induction h with
  | done b x =>
    subst hr
    exact .done b _
  | ask reply _ ih => exact .ask reply (ih hr)

theorem Goes.kept {f : Browser → Fault → Program α} {a : α} (h : p.Goes l b (.ok a)) :
    (p.orElse f).Goes l b (.ok a) := by
  generalize hr : (Except.ok a : Except Fault α) = x at h
  induction h with
  | done b x =>
    subst hr
    exact .done b _
  | ask reply _ ih => exact .ask reply (ih hr)

theorem Goes.orElse {f : Browser → Fault → Program α} {e : Fault} {r : Except Fault α} (h : p.Goes l b (.error e))
    (hf : (f b e).Goes l' b' r) : (p.orElse f).Goes (l ++ l') b' r := by
  generalize hr : (Except.error e : Except Fault α) = x at h
  induction h with
  | done b x =>
    subst hr
    exact hf
  | ask reply _ ih => exact .ask reply (ih hf hr)

end

end Program

namespace Browser

open Work

/-! ## Characters on the page -/

namespace Entry

def typed : Entry → List Char
  | answered _ (.typeText _ text) reply => if reply.isFault then [] else text.toList
  | _ => []

def isBrokenPause : Entry → Bool
  | answered _ (.sleep _) reply => reply.isFault
  | _ => false

end Entry

def typed (l : List Entry) : List Char := l.flatMap Entry.typed

@[simp] theorem typed_nil : typed [] = [] := rfl

@[simp] theorem typed_cons (x : Entry) (l : List Entry) : typed (x :: l) = x.typed ++ typed l := rfl

@[simp] theorem typed_append (l l' : List Entry) : typed (l ++ l') = typed l ++ typed l' := List.flatMap_append

@[simp] theorem Entry.typed_raised (b : Browser) (c : Call) (f : Fault) : (answered b c (.raised f)).typed = [] := by
  cases c <;> rfl

/-- Text is typed; if there is a fault, then only a first part of it. That is
not the whole unless the fault broke off the pause behind it. -/
structure Types {α : Type} (text : List Char) (l : List Entry) (r : Except Fault α) : Prop where
  whole : ∀ a, r = .ok a → typed l = text
  part : ∀ e, r = .error e → typed l <+: text
  proper : ∀ e, r = .error e → (∀ x ∈ l, x.isBrokenPause = false) → typed l ≠ text

section
variable {α β : Type} {s t : List Char} {l l' : List Entry}

theorem Types.of_ok {a : α} (h : typed l = s) : Types s l (.ok a : Except Fault α) :=
  ⟨fun _ _ => h, fun _ he => (by cases he), fun _ he => (by cases he)⟩

theorem Types.append {a : α} {r : Except Fault β} (h : Types s l (.ok a : Except Fault α)) (h' : Types t l' r) :
    Types (s ++ t) (l ++ l') r := by
  have hs : typed l = s := h.whole a rfl
  refine ⟨?_, ?_, ?_⟩
  · intro b hb
    rw [typed_append, hs, h'.whole b hb]
  · intro e he
    rw [typed_append, hs]
    exact (List.prefix_append_right_inj s).mpr (h'.part e he)
  · intro e he hl
    rw [typed_append, hs]
    intro heq
    exact h'.proper e he (List.forall_mem_append.mp hl).2 (List.append_cancel_left heq)

theorem Types.passed_on {e : Fault} (h : Types s l (.error e : Except Fault α)) :
    Types (s ++ t) l (.error e : Except Fault β) := by
  have hpart := h.part e rfl
  refine ⟨?_, ?_, ?_⟩
  · intro b hb
    cases hb
  · intro _ _
    exact hpart.trans (List.prefix_append s t)
  · intro _ _ hl heq
    have hlength := hpart.length_le
    rw [heq, List.length_append] at hlength
    have hnil : t = [] := List.length_eq_zero_iff.mp (by omega)
    rw [hnil, List.append_nil] at heq
    exact h.proper e rfl hl heq

end

end Browser

/-! ## Work that types -/

namespace Work

open Browser

structure Types {α : Type} (text : List Char) (w : Work α) : Prop where
  leaves : ∀ b, (w b).Leaves fun l _ r => Browser.Types text l r

/-- Work that may type some text and end with some result, which draws from the random source and leaves the browser
as it is otherwise. -/
structure MayType {α : Type} (text : List Char) (r : Except Fault α) (w : Work α) : Prop where
  goes : ∀ b, ∃ l random, (w b).Goes l { b with random } r ∧ typed l = text

section
variable {α β : Type} {s t : List Char} {w : Work α} {f : α → Work β}

theorem Types.bind (hw : w.Types s) (hf : ∀ a, (f a).Types t) : (w >>= f).Types (s ++ t) := by
  constructor
  intro b
  refine Program.Leaves.andThen (hw.leaves b) ?_ ?_
  · intro l c a hl
    exact Program.Leaves.mono ((hf a).leaves c) fun l' _ r hl' => hl.append hl'
  · intro l c e hl
    exact hl.passed_on

theorem Types.behind (hw : w.Types []) (hf : ∀ a, (f a).Types t) : (w >>= f).Types t := hw.bind hf

theorem Types.withBrowser {f : Browser → Work α} (hf : ∀ b, (f b).Types t) : (browser >>= f).Types t :=
  ⟨fun b => (hf b).leaves b⟩

theorem Types.pure (a : α) : (Pure.pure a : Work α).Types [] := ⟨fun _ => .of_ok rfl⟩

theorem Types.draw (d : Draw α) : (Work.draw d).Types [] := ⟨fun _ => .of_ok rfl⟩

theorem Types.tell {c : Call} {text : List Char}
    (hok : ∀ b reply, reply.isFault = false → (Entry.answered b c reply).typed = text)
    (hfault : c.isSleep = true ∨ text ≠ []) : (Work.tell c).Types text := by
  constructor
  intro b reply
  cases reply with
  | raised f =>
    refine ⟨?_, ?_, ?_⟩
    · intro a ha
      cases ha
    · intro e _
      simp
    · intro e _ hl
      rcases hfault with hc | hne
      · have hbroken := hl _ (List.mem_cons_self ..)
        cases c with
        | sleep => cases hbroken
        | _ => cases hc
      · simpa using hne.symm
  | _ => exact .of_ok (by simpa using hok b _ rfl)

theorem Types.pause (least greatest : Nat) : (Work.pause least greatest).Types [] := by
  refine .withBrowser fun b => .behind (.draw _) fun (_, seconds) => ?_
  cases seconds with
  | some seconds => exact .tell (fun _ _ _ => rfl) (.inl rfl)
  | none => exact .pure ()

theorem MayType.bind {a : α} {r : Except Fault β} (hw : w.MayType s (.ok a)) (hf : (f a).MayType t r) :
    (w >>= f).MayType (s ++ t) r := by
  constructor
  intro b
  obtain ⟨l, random, hl, hs⟩ := hw.goes b
  obtain ⟨l', random', hl', ht⟩ := hf.goes { b with random }
  exact ⟨l ++ l', random', hl.andThen hl', by rw [typed_append, hs, ht]⟩

theorem MayType.behind {a : α} {r : Except Fault β} (hw : w.MayType [] (.ok a)) (hf : (f a).MayType t r) :
    (w >>= f).MayType t r := hw.bind hf

theorem MayType.fail {e : Fault} (hw : w.MayType s (.error e)) : (w >>= f).MayType s (.error e) := by
  constructor
  intro b
  obtain ⟨l, random, hl, hs⟩ := hw.goes b
  exact ⟨l, random, hl.passed_on, hs⟩

theorem MayType.withBrowser {f : Browser → Work α} {r : Except Fault α} (hf : ∀ b, (f b).MayType t r) :
    (browser >>= f).MayType t r := ⟨fun b => (hf b).goes b⟩

theorem MayType.draw {d : Draw α} {r : Except Fault β} (hf : ∀ a, (f a).MayType t r) :
    (Work.draw d >>= f).MayType t r :=
  ⟨fun b => (hf (d b.random).1).goes { b with random := (d b.random).2 }⟩

theorem MayType.pure (a : α) : (Pure.pure a : Work α).MayType [] (.ok a) := ⟨fun b => ⟨[], b.random, .done b _, rfl⟩⟩

theorem MayType.tell {c : Call} (hc : ∀ b, (Entry.answered b c (.value .null)).typed = s) :
    (Work.tell c).MayType s (.ok ()) := by
  constructor
  intro b
  exact ⟨[.answered b c (.value .null)], b.random, .ask _ (.done b _), by simp [hc]⟩

theorem MayType.refuse (c : Call) (e : Fault) : (Work.tell c).MayType [] (.error e) := by
  constructor
  intro b
  exact ⟨[.answered b c (.raised e)], b.random, .ask _ (.done b _), by simp⟩

theorem MayType.pause (least greatest : Nat) : (Work.pause least greatest).MayType [] (.ok ()) := by
  refine .withBrowser fun b => .draw fun (_, seconds) => ?_
  cases seconds with
  | some seconds => exact .tell fun _ => rfl
  | none => exact .pure ()

end

end Work

namespace Browser

open Work

/-! ## Typing a text -/

theorem typeChars_types (page : Page) (chars : List Char) : (typeChars page chars).Types chars := by
  induction chars with
  | nil => exact .pure ()
  | cons c chars ih =>
    have htell : (tell (.typeText page (String.singleton c))).Types [c] := by
      refine .tell (fun b reply hreply => ?_) (.inr (List.cons_ne_nil c []))
      simp [Entry.typed, hreply]
    refine htell.bind fun _ => .behind (.pause ..) fun _ => .behind (.draw _) fun slow => ?_
    cases slow with
    | true => exact .behind (.pause ..) fun _ => ih
    | false => exact ih

theorem typeChars_cons_mayType (page : Page) (c : Char) {rest chars : List Char} {r : Except Fault Unit}
    (h : (typeChars page rest).MayType chars r) : (typeChars page (c :: rest)).MayType (c :: chars) r := by
  have htell : (tell (.typeText page (String.singleton c))).MayType [c] (.ok ()) := by
    refine .tell fun b => ?_
    simp [Entry.typed, Reply.isFault]
  refine htell.bind (.behind (.pause ..) (.draw fun slow => ?_))
  cases slow with
  | true => exact .behind (.pause ..) h
  | false => exact h

theorem typeChars_mayType (page : Page) (chars : List Char) : (typeChars page chars).MayType chars (.ok ()) := by
  induction chars with
  | nil => exact .pure ()
  | cons c chars ih => exact typeChars_cons_mayType page c ih

theorem typeChars_mayBreak (page : Page) (before : List Char) (c : Char) (after : List Char) (e : Fault) :
    (typeChars page (before ++ c :: after)).MayType before (.error e) := by
  induction before with
  | nil => exact (MayType.refuse _ e).fail
  | cons d before ih => exact typeChars_cons_mayType page d ih

/-- What a failed attempt to type a text leaves on the page: nothing when the text is typed in one call, a first part
of it at human pace, and the whole of it only if the pause behind it was broken off. -/
structure Leftover (text : List Char) (human : Bool) (l : List Entry) : Prop where
  part : typed l <+: text
  silent : human = false → typed l = []
  proper : (∀ x ∈ l, x.isBrokenPause = false) → typed l = [] ∨ typed l ≠ text

structure Delivers {α : Type} (text : List Char) (human : Bool) (l : List Entry) (r : Except Fault α) : Prop where
  whole : ∀ a, r = .ok a → typed l = text
  leftover : ∀ e, r = .error e → Leftover text human l

section
variable {α β : Type} {text : List Char} {human : Bool} {l l' : List Entry} {r : Except Fault α}

theorem Delivers.of_silent (e : Fault) (h : typed l = []) : Delivers text human l (.error e : Except Fault α) := by
  constructor
  · intro a ha
    cases ha
  · intro _ _
    exact ⟨by simp [h], fun _ => h, fun _ => .inl h⟩

theorem Types.delivers (h : Types text l r) : Delivers text true l r := by
  refine ⟨h.whole, ?_⟩
  intro e he
  refine ⟨h.part e he, ?_, fun hl => .inr (h.proper e he hl)⟩
  intro hhuman
  cases hhuman

theorem Delivers.behind (hl : typed l = []) (h : Delivers text human l' r) : Delivers text human (l ++ l') r := by
  have happend : typed (l ++ l') = typed l' := by rw [typed_append, hl, List.nil_append]
  refine ⟨?_, ?_⟩
  · intro a ha
    rw [happend]
    exact h.whole a ha
  · intro e he
    have hleft := h.leftover e he
    refine ⟨?_, ?_, ?_⟩
    · rw [happend]
      exact hleft.part
    · rw [happend]
      exact hleft.silent
    · intro hbroken
      rw [happend]
      exact hleft.proper (List.forall_mem_append.mp hbroken).2

theorem Delivers.retold {e e' : Fault} (h : Delivers text human l (.error e : Except Fault α)) :
    Delivers text human l (.error e' : Except Fault β) := by
  refine ⟨?_, ?_⟩
  · intro b hb
    cases hb
  · intro _ _
    exact h.leftover e rfl

end

theorem typed_of_asksOnly {α : Type} {p : Program α} (h : p.AsksOnly fun c => ∀ page text, c ≠ .typeText page text) :
    p.Leaves fun l _ _ => typed l = [] := by
  induction p with
  | done b r => exact typed_nil
  | ask b c next ih =>
    intro reply
    have hnone : (Entry.answered b c reply).typed = [] := by
      cases c with
      | typeText page text => exact absurd rfl (h.1 page text)
      | _ => rfl
    refine Program.Leaves.mono (ih reply (h.2 reply)) ?_
    intro l b' r hl
    show typed (_ :: l) = []
    rw [typed_cons, hnone, hl, List.append_nil]

theorem openPage_silent (id : String) (b : Browser) : (openPage id b).Leaves fun l c _ =>
    typed l = [] ∧ c.countermeasures = b.countermeasures := by
  have hasks : (openPage id).AsksOnly fun c => ∀ page text, c ≠ .typeText page text := by
    refine .bind .browser fun b => .ite .raise ?_
    dsimp only
    cases b.pages.lookup (pageName id) with
    | some page => exact .pure page
    | none =>
      refine .bind (.rephrase (.call ?_)) fun reply => .bind (.tell ?_) fun _ => .bind (.tell ?_) fun _ => ?_
      · simp
      · simp
      · simp
      · exact .bind .modify fun _ => .pure _
  refine Program.Leaves.mono (Program.Leaves.and (typed_of_asksOnly (hasks.program b)) (openPage_heeds (p := .content))) ?_
  intro l c r ⟨hl, _, hkeeps⟩
  exact ⟨hl, by rw [hkeeps.rest]⟩

theorem keys_deliver (page : Page) (text : String) (human : Bool) (b : Browser) :
    ((if human then do pause 200 600; typeChars page text.toList; pause 100 400
      else tell (.typeText page text) : Work Unit) b).Leaves fun l _ r => Delivers text.toList human l r := by
  cases human with
  | true =>
    have htypes : (do pause 200 600; typeChars page text.toList; pause 100 400 : Work Unit).Types (text.toList ++ []) :=
      .behind (.pause ..) fun _ => .bind (typeChars_types ..) fun _ => .pause ..
    rw [List.append_nil] at htypes
    exact Program.Leaves.mono (htypes.leaves b) fun l _ r hl => hl.delivers
  | false =>
    refine leaves_tell_last (fun f => .of_silent f (by simp)) fun reply hreply => ?_
    constructor
    · intro _ _
      simp [Entry.typed, hreply]
    · intro e he
      cases he

theorem type_delivers (selector text id : String) (b : Browser) : (type selector text id b).Leaves fun l _ r =>
    Delivers text.toList b.countermeasures.humanInput l r := by
  refine Program.Leaves.andThen (openPage_silent id b) ?_ ?_
  · intro l c page ⟨hl, hc⟩
    rw [← hc]
    refine Program.Leaves.orElse (P := fun l' _ r => Delivers text.toList c.countermeasures.humanInput l' r) ?_ ?_ ?_
    · refine leaves_tell (fun f => .of_silent f (by simp)) fun reply _ => ?_
      exact Program.Leaves.mono (keys_deliver ..) fun l' _ r hl' => Delivers.behind (l := [_]) (by simp [Entry.typed]) hl'
    · intro l' c' a hl'
      exact hl'.behind hl
    · intro l' c' e hl'
      show Delivers _ _ (l ++ (l' ++ [])) _
      rw [List.append_nil]
      exact (hl'.retold.behind hl)
  · intro l c e ⟨hl, _⟩
    exact .of_silent e hl

/-- **What typing delivers.** -/
theorem perform_type_delivers (selector text : String) (b : Browser) : (perform (.type selector text) b).Leaves fun l _ r =>
    Delivers text.toList b.countermeasures.humanInput l r := by
  refine Program.Leaves.andThen (type_delivers selector text "" b) ?_ ?_
  · intro l c a hl
    refine ⟨fun _ _ => ?_, fun e he => ?_⟩
    · rw [List.append_nil]
      exact hl.whole a rfl
    · cases he
  · intro l c e hl
    exact hl.retold

/-! ## What may be left -/

theorem openPage_open {id : String} {b : Browser} {page : Page} (hl : b.isLaunched = true)
    (hpage : b.pages.lookup (pageName id) = some page) : openPage id b = .done b (.ok page) := by
  rw [openPage, browser_bind, if_neg (by simp [hl])]
  dsimp only
  rw [hpage]
  rfl

section
variable {b : Browser} {page : Page} (hl : b.isLaunched = true) (hpage : b.pages.lookup defaultPage = some page)
  (hhuman : b.countermeasures.humanInput = true) (selector : String)
include hl hpage hhuman

theorem type_goes {text : String} {chars : List Char} {r : Except Fault Unit}
    (h : (do pause 200 600; typeChars page text.toList; pause 100 400 : Work Unit).MayType chars r) :
    ∃ l random, typed l = chars ∧
      (∀ a, r = .ok a → (perform (.type selector text) b).Goes l { b with random } (.ok .nothing)) ∧
        ∀ e, r = .error e → (perform (.type selector text) b).Goes l { b with random }
          (.error (onRefusal (fun _ f => .elementNotFound selector (headline f)) e)) := by
  let act : Work Unit := do
    tell (.focus page selector b.timeoutMs)
    if b.countermeasures.humanInput then
      pause 200 600
      typeChars page text.toList
      pause 100 400
    else tell (.typeText page text)
  have hact : act.MayType chars r := by
    refine .behind (.tell fun _ => rfl) ?_
    rw [if_pos hhuman]
    exact h
  let told : Work Unit := rephrase act (onRefusal fun _ f => .elementNotFound selector (headline f))
  have hperform : perform (.type selector text) b = (told b).andThen fun b' _ => .done b' (.ok .nothing) := by
    have hopen : openPage "" b = .done b (.ok page) := openPage_open hl hpage
    show (((openPage "" b).andThen _).andThen _) = _
    rw [hopen]
    rfl
  obtain ⟨l, random, hgoes, htyped⟩ := hact.goes b
  refine ⟨l, random, htyped, ?_, ?_⟩
  · rintro a rfl
    rw [hperform, ← List.append_nil l]
    exact hgoes.kept.andThen (.done _ _)
  · rintro e rfl
    rw [hperform, ← List.append_nil l]
    exact (hgoes.orElse (.done _ _)).passed_on

/-- At human pace a text may be typed. -/
theorem perform_type_may_pass (text : String) :
    ∃ l random, (perform (.type selector text) b).Goes l { b with random } (.ok .nothing) ∧ typed l = text.toList := by
  have hkeys : (do pause 200 600; typeChars page text.toList; pause 100 400 : Work Unit).MayType
      (text.toList ++ []) (.ok ()) := .behind (.pause ..) (.bind (typeChars_mayType ..) (.pause ..))
  rw [List.append_nil] at hkeys
  obtain ⟨l, random, htyped, hok, _⟩ := type_goes hl hpage hhuman selector hkeys
  exact ⟨l, random, hok () rfl, htyped⟩

/-- **Any first part of a text but the whole may be left** by an attempt at human pace that fails. -/
theorem perform_type_may_break (before : List Char) (c : Char) (after : List Char) (timedOut : Bool) (message : String) :
    ∃ l random, (perform (.type selector (String.ofList (before ++ c :: after))) b).Goes l { b with random }
      (.error (.step (.elementNotFound selector (headline (.browser timedOut message))))) ∧ typed l = before := by
  have hchars := typeChars_mayBreak page before c after (.browser timedOut message)
  have hkeys : (do
      pause 200 600
      typeChars page (String.ofList (before ++ c :: after)).toList
      pause 100 400 : Work Unit).MayType before (.error (.browser timedOut message)) := by
    rw [String.toList_ofList]
    exact .behind (.pause ..) hchars.fail
  obtain ⟨l, random, htyped, _, herror⟩ := type_goes hl hpage hhuman selector hkeys
  exact ⟨l, random, herror _ rfl, htyped⟩

end

end Browser

end BrowserPilot
