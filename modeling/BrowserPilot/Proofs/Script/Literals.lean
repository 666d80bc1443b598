import BrowserPilot.Proofs.Script.Blockwise
import BrowserPilot.Proofs.Script.Faithful

/-!
# Literals of a call

A literal begins and ends with quotes of one kind, and those of the other kinds
may be part of it. The compiler ends it at the first quote of any kind, so that
it takes exactly the literals in which there is none.
-/

namespace BrowserPilot.Script

open Text

/-! ## Arguments -/

inductive StartsWithLiteral : List Char → List Char → List Char → Prop
  | intro {gap text rest : List Char} {q : Char} (blank : ∀ c ∈ gap, isBlank c = true) (quote : isQuote q = true)
      (inside : q ∉ text) : StartsWithLiteral (gap ++ q :: (text ++ q :: rest)) text rest

def NoneFollows (rest : List Char) : Prop :=
  ∀ gap gap' q more, rest = gap ++ ',' :: (gap' ++ q :: more) → (∀ c ∈ gap, isBlank c = true) →
    (∀ c ∈ gap', isBlank c = true) → isQuote q = false

/-- The texts of an action as the arguments of its call. A text that is no
literal is taken as empty. -/
inductive Passes : Action → List Char → Prop
  | navigate {url : String} {cs rest : List Char} (first : StartsWithLiteral cs url.toList rest) : Passes (.navigate url) cs
  | click {selector : String} {cs rest : List Char} (first : StartsWithLiteral cs selector.toList rest) :
      Passes (.click selector) cs
  | type {selector text : String} {cs gap next rest : List Char}
      (first : StartsWithLiteral cs selector.toList (gap ++ ',' :: next)) (blank : ∀ c ∈ gap, isBlank c = true)
      (second : StartsWithLiteral next text.toList rest) : Passes (.type selector text) cs
  | typeNothing {selector : String} {cs rest : List Char} (first : StartsWithLiteral cs selector.toList rest)
      (none : NoneFollows rest) : Passes (.type selector "") cs
  | wait {selector : String} {cs rest : List Char} (first : StartsWithLiteral cs selector.toList rest) :
      Passes (.wait .selector 0 selector) cs
  | extract {selector : String} {cs rest : List Char} (first : StartsWithLiteral cs selector.toList rest) :
      Passes (.extract selector) cs

theorem not_isBlank_of_isQuote {q : Char} (hq : isQuote q = true) : isBlank q = false :=
  quote_cases (p := fun q => isBlank q = false) (by decide) q hq

theorem quoted?_quote {q : Char} (hq : isQuote q = true) {text : List Char} (h : ∀ c ∈ text, isQuote c = false) (rest : List Char) :
    quoted? (q :: (text ++ q :: rest)) = some (text, rest) := by
  have hrow : Row (fun c => !isQuote c) text (q :: rest) := row_cons (fun c hc => by simp [h c hc]) (by simp [hq])
  simp only [quoted?, if_pos hq, hrow.takeWhile_eq, hrow.dropWhile_eq]

section
variable {cs text rest : List Char}

theorem StartsWithLiteral.quoted? (h : StartsWithLiteral cs text rest) (hu : ∀ c ∈ text, isQuote c = false) :
    quoted? (skipBlanks cs) = some (text, rest) := by
  cases h with
  | @intro gap _ _ q hgap hq _ =>
    have hrow : Row isBlank gap (q :: (text ++ q :: rest)) := row_cons hgap (not_isBlank_of_isQuote hq)
    rw [skipBlanks, hrow.dropWhile_eq, quoted?_quote hq hu]

theorem StartsWithLiteral.firstLiteral (h : StartsWithLiteral cs text rest) (hu : ∀ c ∈ text, isQuote c = false) :
    firstLiteral cs = (text, rest) := by
  rw [Script.firstLiteral, h.quoted? hu]

theorem StartsWithLiteral.literal {x : String} (h : StartsWithLiteral cs x.toList rest) (hu : Unquoted x) :
    literal cs = x := by
  rw [Script.literal, h.firstLiteral hu, String.ofList_toList]

theorem StartsWithLiteral.nextLiteral (h : StartsWithLiteral cs text rest) (hu : ∀ c ∈ text, isQuote c = false) {gap : List Char}
    (hgap : ∀ c ∈ gap, isBlank c = true) : nextLiteral (gap ++ ',' :: cs) = text := by
  have hrow : Row isBlank gap (',' :: cs) := row_cons hgap (by decide)
  unfold Script.nextLiteral
  simp only [skipBlanks, hrow.dropWhile_eq]
  rw [← skipBlanks, h.quoted? hu]

theorem NoneFollows.nextLiteral (h : NoneFollows rest) : nextLiteral rest = [] := by
  unfold Script.nextLiteral
  split
  · next next hrest =>
    cases hq : Text.quoted? (skipBlanks next) with
    | none => rfl
    | some r =>
      obtain ⟨q, closed, ho, _, hnext, _⟩ := quoted?_some hq
      have hcut : rest = rest.takeWhile isBlank ++ ',' :: (next.takeWhile isBlank ++ q :: (r.1 ++ closed :: r.2)) := by
        rw [← hnext, skipBlanks, List.takeWhile_append_dropWhile, ← hrest, skipBlanks, List.takeWhile_append_dropWhile]
      have hno := h _ _ q _ hcut (row_takeWhile isBlank rest).all (row_takeWhile isBlank next).all
      rw [ho] at hno
      cases hno
  · rfl

end

theorem Passes.action {a : Action} {cs : List Char} (h : Passes a cs) (hu : ∀ x ∈ a.texts, Unquoted x) {i : Idiom}
    (hi : idioms[a.place]? = some i) (line : List Char) : i.action line cs = .ok a := by
  cases h with
  | navigate first =>
    cases hi
    simp only [first.literal (hu _ (by simp [Action.texts]))]
  | click first =>
    cases hi
    simp only [first.literal (hu _ (by simp [Action.texts]))]
  | @type selector text _ _ _ _ first blank second =>
    cases hi
    have hs : Unquoted selector := hu selector (by simp [Action.texts])
    have ht : Unquoted text := hu text (by simp [Action.texts])
    simp only [first.firstLiteral hs, second.nextLiteral ht blank, String.ofList_toList]
  | @typeNothing selector _ _ first none =>
    cases hi
    have hs : Unquoted selector := hu selector (by simp [Action.texts])
    simp only [first.firstLiteral hs, none.nextLiteral, String.ofList_toList, String.ofList_nil]
  | wait first =>
    cases hi
    simp only [first.literal (hu _ (by simp [Action.texts]))]
  | extract first =>
    cases hi
    simp only [first.literal (hu _ (by simp [Action.texts]))]

/-- What an idiom makes of the arguments is the action only then. -/
theorem Passes.action_iff {a : Action} {cs line : List Char} (h : Passes a cs) (hs : cs <:+ line) {i : Idiom}
    (hi : idioms[a.place]? = some i) : i.action line cs = .ok a ↔ ∀ x ∈ a.texts, Unquoted x := by
  constructor
  · intro ha x hx
    exact ((idiom_action hi hs ha).2.2 x hx).plain
  · intro hu
    exact h.action hu hi line

/-! ## Scripts -/

/-- **Literals of a step.** A call with literals, in the last line with a call of
its block, makes the step with just these texts if and only if no quote of any
kind is in them and no number of the script is too long. -/
theorem literals_kept_iff {default : Int} (hd : 0 ≤ default) {script : String} {k : Nat} {b : Block} {l : Line} {i : Idiom}
    {before rest : List Char} {a : Action} (hb : (blocksOf script)[k]? = some b)
    (hl : IsLastWith (fun l => HasCall l.text) b.lines l) (hi : idioms[a.place]? = some i)
    (hc : i.IsFirstCall l.text before rest) (hlater : ∀ j ∈ laterCalls a, ¬j.IsCalled l.text) (ha : Passes a rest) :
    (∃ c s, compile default script = .ok c ∧ c.steps[k]? = some s ∧ s.action = a) ↔
      (∀ x ∈ a.texts, Unquoted x) ∧ ∀ l ∈ linesInBlocks script, IsShort l.text := by
  have hsuffix : rest <:+ l.text := opening?_suffix ((opening?_eq_some_iff (List.mem_of_getElem? hi)).mpr ⟨before, hc⟩)
  -- whatever the step is, it says what the line says
  have hstep {c : Compiled} {s : Step} (hok : compileWith default.toNat script = .ok c) (hs : c.steps[k]? = some s) :
      i.action l.text rest = .ok s.action := by
    have htells := (compileBlocks_tells (compileWith_ok hok)).1 k b s hb hs
    rcases htells.action with ⟨l', hl', hsays⟩ | ⟨hnone, _⟩
    · rw [hl'.unique hl] at hsays
      exact (says_iff hi hc hlater).mp hsays
    · obtain ⟨before, after, hlines, hcall, _⟩ := hl
      exact absurd hcall (hnone l (by simp [hlines]))
  rw [compile_eq_compileWith hd]
  constructor
  · intro h
    obtain ⟨c, s, hok, hs, rfl⟩ := h
    exact ⟨(ha.action_iff hsuffix hi).mp (hstep hok hs), compileWith_ok_iff.mp ⟨c, hok⟩⟩
  · intro h
    obtain ⟨c, hok⟩ := compileWith_ok_iff.mpr h.2
    have hlt : k < c.steps.length := by
      rw [compileBlocks_length (compileWith_ok hok)]
      exact (List.getElem?_eq_some_iff.mp hb).1
    have hs : c.steps[k]? = some c.steps[k] := List.getElem?_eq_getElem hlt
    refine ⟨c, _, hok, hs, ?_⟩
    have := hstep hok hs
    rw [(ha.action_iff hsuffix hi).mpr h.1] at this
    exact (Except.ok.inj this).symm

private def couponScript : String := "# step 1\nawait page.fill( `#code` , \"50% off\")"

private def couponLine : Line := ⟨2, "await page.fill( `#code` , \"50% off\")".toList⟩

theorem literals_kept_iff_coupon :
    (0 : Int) ≤ 3 ∧ Passes (.type "#code" "50% off") " `#code` , \"50% off\")".toList ∧
      (∃ c s, compile 3 couponScript = .ok c ∧ c.steps[0]? = some s ∧ s.action = .type "#code" "50% off") ∧
      ∀ l ∈ linesInBlocks couponScript, IsShort l.text := by
  have hd : (0 : Int) ≤ 3 := by decide
  have hb : (blocksOf couponScript)[0]? = some ⟨⟨1, "# step 1".toList⟩, [couponLine]⟩ := by rfl
  have hi : idioms[(Action.type "#code" "50% off").place]? = some idioms[2] := rfl
  have hopen : idioms[2].opening? couponLine.text = some " `#code` , \"50% off\")".toList := by rfl
  obtain ⟨before, hc⟩ := (opening?_eq_some_iff (List.mem_of_getElem? hi)).mp hopen
  have hl : IsLastWith (fun l => HasCall l.text) (Block.lines ⟨⟨1, "# step 1".toList⟩, [couponLine]⟩) couponLine :=
    ⟨[⟨1, "# step 1".toList⟩], [], rfl, ⟨_, List.mem_of_getElem? hi, _, _, hc.call⟩, by simp⟩
  have hlater : ∀ j ∈ laterCalls (.type "#code" "50% off"), ¬j.IsCalled couponLine.text := by
    intro j hj
    have hnone : ∀ j ∈ laterCalls (.type "#code" "50% off"), j.opening? couponLine.text = none := by decide
    exact (opening?_eq_none_iff (List.mem_of_mem_drop hj)).mp (hnone j hj)
  have ha : Passes (.type "#code" "50% off") " `#code` , \"50% off\")".toList := by
    have hblank : ∀ c ∈ [' '], isBlank c = true := List.all_eq_true.mp rfl
    have hfirst : StartsWithLiteral " `#code` , \"50% off\")".toList "#code".toList ([' '] ++ ',' :: " \"50% off\")".toList) :=
      @StartsWithLiteral.intro [' '] "#code".toList _ '`' hblank (by decide) (by decide)
    have hsecond : StartsWithLiteral " \"50% off\")".toList "50% off".toList ")".toList :=
      @StartsWithLiteral.intro [' '] "50% off".toList _ '"' hblank (by decide) (by decide)
    exact .type hfirst hblank hsecond
  have hcompiled : ∃ c s, compile 3 couponScript = .ok c ∧ c.steps[0]? = some s ∧ s.action = .type "#code" "50% off" :=
    ⟨_, _, rfl, rfl, rfl⟩
  exact ⟨hd, ha, hcompiled, ((literals_kept_iff hd hb hl hi hc hlater ha).mp hcompiled).2⟩

/-- A selector with a value in quotes of the other kind is cut off. -/
theorem literal_cutOff :
    Passes (.click "a[title='x']") "\"a[title='x']\");".toList ∧
      compile 3 "// step 1\nawait page.click(\"a[title='x']\");" =
        .ok ⟨[⟨"step-1", 1, .click "a[title=", [], ⟨false, 3⟩⟩], []⟩ := by
  constructor
  · have hfirst : StartsWithLiteral "\"a[title='x']\");".toList "a[title='x']".toList ");".toList :=
      @StartsWithLiteral.intro [] "a[title='x']".toList _ '"' (by simp) (by decide) (by decide)
    exact .click hfirst
  · rfl

end BrowserPilot.Script
