import BrowserPilot.Proofs.Script.Steps

/-!
# Calls on one line

Of several lines with calls the last one counts. On one line, an idiom is read
at its first call. So two lines with calls of the same idiom say what the
second says, and joined to one line they say what the first says.
-/

namespace BrowserPilot.Script

open Text

/-! ## Marks in joined texts -/

theorem calls_compact : ∀ i ∈ idioms, ∀ call ∈ i.calls, Compact ';' call.toList := by decide

theorem warnCalls_compact : ∀ call ∈ ["console.warn(", "logger.warning(", "logging.warning("], Compact ';' call.toList := by
  decide

theorem not_mem_of_forall {p : Char → Bool} {q : Char} {text : List Char} (h : ∀ c ∈ text, p c = true) (hq : p q = false) :
    q ∉ text := by
  intro hm
  cases (h q hm).symm.trans hq

theorem IsAssignment.exists_compact {cs digits : List Char} (h : IsAssignment cs digits) :
    ∃ text rest, cs = text ++ rest ∧ Compact ';' text ∧ ∀ rest', rest' <+: rest → IsAssignment (text ++ rest') digits := by
  cases h with
  | @intro name gap gap' _ rest hname hgap hgap' hne hrow =>
    refine ⟨"retries_step".toList ++ (name ++ (gap ++ '=' :: (gap' ++ digits))), rest, by simp, ⟨?_, rfl, ?_⟩, ?_⟩
    · have hfixed : ';' ∉ "retries_step".toList := by decide
      simp only [List.mem_append, List.mem_cons, not_or]
      exact ⟨hfixed, not_mem_of_forall hname (by decide), not_mem_of_forall hgap (by decide), by decide,
        not_mem_of_forall hgap' (by decide), not_mem_of_forall hrow.all (by decide)⟩
    · cases hd : digits.getLast? with
      | none => exact absurd (List.getLast?_eq_none_iff.mp hd) hne
      | some d =>
        have hb := digit_not_isBlank (hrow.all d (List.mem_of_getLast? hd))
        simp [List.getLast?_append, List.getLast?_cons, hd, hb]
    · intro rest' hp
      have hrow' : Row isDigit digits rest' := by
        refine ⟨hrow.all, fun c hc => hrow.stop c ?_⟩
        obtain ⟨more, rfl⟩ := hp
        rw [List.head?_append, hc, Option.some_or]
      have := IsAssignment.intro hname hgap hgap' hne hrow'
      simpa using this

theorem IsMarkerText.compact {text : List Char} (h : IsMarkerText text) : Compact ';' text := by
  cases h with
  | @intro sign gap word gap' d hsign hgap hw hgap' hd =>
    have hword : ';' ∉ word := by
      rcases hw with hw | rfl
      · exact hw.missing (by decide)
      · decide
    have hsigns : ∀ sign ∈ ["//", "#"], ';' ∉ sign.toList ∧ sign.toList.head?.map isBlank = some false ∧ sign.toList ≠ [] := by
      decide
    obtain ⟨hno, hhead, hne⟩ := hsigns sign hsign
    refine ⟨?_, ?_, ?_⟩
    · simp only [List.mem_append, List.mem_singleton, not_or]
      refine ⟨hno, not_mem_of_forall hgap (by decide), hword, not_mem_of_forall hgap' (by decide), ?_⟩
      rintro rfl
      cases hd
    · rw [List.head?_append_of_ne_nil _ hne]
      exact hhead
    · simp [List.getLast?_append, digit_not_isBlank hd]

section
variable {first second gap gap' : List Char} (hgap : ∀ c ∈ gap, isBlank c = true) (hgap' : ∀ c ∈ gap', isBlank c = true)

include hgap hgap'

theorem isCalledAt_joined {i : Idiom} (hi : i ∈ idioms) {before rest : List Char}
    (h : i.IsCalledAt (first ++ (gap ++ ';' :: (gap' ++ second))) before rest) :
    (∃ rest', i.IsCalledAt first before rest') ∨ i.IsCalled second ∧ first.length ≤ before.length := by
  obtain ⟨⟨call, hc, hcut⟩, hw⟩ := h
  rcases (calls_compact i hi call hc).in_joined hgap hgap' hcut with ⟨more, hfirst, _⟩ | ⟨more, hsecond, hsuffix, hlen⟩
  · exact .inl ⟨more, ⟨call, hc, hfirst⟩, hw⟩
  · exact .inr ⟨⟨more, rest, ⟨call, hc, hsecond⟩, fun ha => (hw ha).of_suffix hsuffix⟩, hlen⟩

theorem Idiom.IsFirstCall.joined {i : Idiom} (hi : i ∈ idioms) {before rest : List Char} (h : i.IsFirstCall first before rest) :
    i.IsFirstCall (first ++ (gap ++ ';' :: (gap' ++ second))) before (rest ++ (gap ++ ';' :: (gap' ++ second))) := by
  obtain ⟨⟨call, hc, hcut⟩, hw⟩ := h.call
  refine ⟨⟨⟨call, hc, by simp [hcut]⟩, hw⟩, fun before' rest' h' => ?_⟩
  rcases isCalledAt_joined hgap hgap' hi h' with ⟨rest'', hfirst⟩ | ⟨_, hlen⟩
  · exact h.first before' rest'' hfirst
  · have hle : before.length ≤ first.length := by simp [hcut]
    exact Nat.le_trans hle hlen

theorem assignsRetries_joined {digits : List Char} (h : AssignsRetries (first ++ (gap ++ ';' :: (gap' ++ second))) digits) :
    (∃ digits, AssignsRetries first digits) ∨ ∃ digits, AssignsRetries second digits := by
  obtain ⟨before, cs, hcut, hw, ha, _⟩ := h
  obtain ⟨text, rest, rfl, hc, hshort⟩ := ha.exists_compact
  rcases hc.in_joined hgap hgap' hcut with ⟨more, hfirst, hp⟩ | ⟨more, hsecond, hsuffix, _⟩
  · exact .inl (exists_assignsRetries hfirst hw (hshort more hp))
  · exact .inr (exists_assignsRetries hsecond (hw.of_suffix hsuffix) ha)

theorem hasWarnCall_joined (h : HasWarnCall (first ++ (gap ++ ';' :: (gap' ++ second)))) :
    HasWarnCall first ∨ HasWarnCall second := by
  obtain ⟨call, hc, before, after, hcut⟩ := h
  rw [List.append_assoc] at hcut
  rcases (warnCalls_compact call hc).in_joined hgap hgap' hcut.symm with ⟨more, hfirst, _⟩ | ⟨more, hsecond, _⟩
  · exact .inl ⟨call, hc, before, more, by rw [hfirst, List.append_assoc]⟩
  · exact .inr ⟨call, hc, more, after, by rw [hsecond, List.append_assoc]⟩

theorem isMarker_joined (hne : first ≠ []) (h : isMarker (first ++ (gap ++ ';' :: (gap' ++ second))) = true) :
    isMarker first = true := by
  obtain ⟨text, ht, after, hcut⟩ := isMarker_iff.mp h
  have hfront : first ++ (gap ++ ';' :: (gap' ++ second)) = [] ++ (text ++ after) := hcut.symm
  rcases ht.compact.in_joined hgap hgap' hfront with ⟨more, hfirst, _⟩ | ⟨_, _, _, hlen⟩
  · exact isMarker_iff.mpr ⟨text, ht, more, hfirst.symm⟩
  · exact absurd (List.length_eq_zero_iff.mp (Nat.le_zero.mp hlen)) hne

end

/-! ## Lines with calls of one idiom -/

/-- A line in a block with calls of one idiom only, that at a place of the table,
and nothing else that counts for a step. -/
structure CallsOnly (k : Nat) (line : List Char) : Prop where
  called : ∃ i, idioms[k]? = some i ∧ i.IsCalled line
  others : ∀ (n : Nat) (j : Idiom), idioms[n]? = some j → j.IsCalled line → n = k
  noMarker : isMarker line = false
  noRetries : ∀ digits, ¬AssignsRetries line digits
  noWarning : ¬HasWarnCall line

theorem callsOnly_iff {k : Nat} {line : List Char} : CallsOnly k line ↔
    k < idioms.length ∧ (∀ (n : Nat) (hn : n < idioms.length), (idioms[n].opening? line).isSome = decide (n = k)) ∧
      isMarker line = false ∧ retryDigits? line = none ∧ hasWarning line = false := by
  have hwarn : hasWarning line = false ↔ ¬HasWarnCall line := by rw [← hasWarning_iff, Bool.not_eq_true]
  rw [retryDigits?_eq_none_iff, hwarn]
  constructor
  · intro h
    obtain ⟨i, hk, hc⟩ := h.called
    obtain ⟨hlt, hi⟩ := List.getElem?_eq_some_iff.mp hk
    refine ⟨hlt, fun n hn => ?_, h.noMarker, h.noRetries, h.noWarning⟩
    rw [Bool.eq_iff_iff, decide_eq_true_iff, isSome_opening?_iff (List.getElem_mem hn)]
    constructor
    · exact h.others n _ (List.getElem?_eq_getElem hn)
    · rintro rfl
      rwa [hi]
  · intro ⟨hlt, hall, hm, hr, hw⟩
    refine ⟨⟨idioms[k], List.getElem?_eq_getElem hlt, ?_⟩, fun n j hn hc => ?_, hm, hr, hw⟩
    · rw [← isSome_opening?_iff (List.getElem_mem hlt), hall k hlt, decide_eq_true_iff]
    · obtain ⟨hlt', rfl⟩ := List.getElem?_eq_some_iff.mp hn
      rw [← isSome_opening?_iff (List.getElem_mem hlt'), hall n hlt', decide_eq_true_iff] at hc
      exact hc

instance (k : Nat) (line : List Char) : Decidable (CallsOnly k line) := decidable_of_iff _ callsOnly_iff.symm

namespace CallsOnly

theorem ne_nil {k : Nat} {line : List Char} (h : CallsOnly k line) : line ≠ [] := by
  obtain ⟨i, hk, before, rest, ⟨call, hc, hcut⟩, _⟩ := h.called
  have hhead := (calls_compact i (List.mem_of_getElem? hk) call hc).head
  rintro rfl
  cases hcall : call.toList with
  | nil =>
    rw [hcall] at hhead
    cases hhead
  | cons c more => simp [hcall] at hcut

theorem joined {k : Nat} {first second gap gap' : List Char} (h : CallsOnly k first) (h' : CallsOnly k second)
    (hgap : ∀ c ∈ gap, isBlank c = true) (hgap' : ∀ c ∈ gap', isBlank c = true) :
    CallsOnly k (first ++ (gap ++ ';' :: (gap' ++ second))) where
  called := by
    obtain ⟨i, hk, hc⟩ := h.called
    obtain ⟨before, rest, hf⟩ := exists_isFirstCall (List.mem_of_getElem? hk) hc
    exact ⟨i, hk, _, _, (hf.joined hgap hgap' (List.mem_of_getElem? hk)).call⟩
  others := fun n j hn hc => by
    obtain ⟨before, rest, hc⟩ := hc
    rcases isCalledAt_joined hgap hgap' (List.mem_of_getElem? hn) hc with ⟨rest', hfirst⟩ | ⟨hsecond, _⟩
    · exact h.others n j hn ⟨before, rest', hfirst⟩
    · exact h'.others n j hn hsecond
  noMarker := by
    cases hm : isMarker (first ++ (gap ++ ';' :: (gap' ++ second))) with
    | false => rfl
    | true => cases h.noMarker.symm.trans (isMarker_joined hgap hgap' h.ne_nil hm)
  noRetries := fun digits ha => by
    rcases assignsRetries_joined hgap hgap' ha with ⟨d, hd⟩ | ⟨d, hd⟩
    · exact h.noRetries d hd
    · exact h'.noRetries d hd
  noWarning := fun hw => by
    rcases hasWarnCall_joined hgap hgap' hw with hw | hw
    · exact h.noWarning hw
    · exact h'.noWarning hw

section
variable {k : Nat} {i : Idiom} {line before rest : List Char} (h : CallsOnly k line) (hk : idioms[k]? = some i)
  (hf : i.IsFirstCall line before rest)

include h hk hf

theorem says_iff {a : Action} : Says line a ↔ i.action line rest = .ok a := by
  refine Script.says_iff hk hf fun j hj hc => ?_
  obtain ⟨n, hn⟩ := List.getElem?_of_mem hj
  rw [List.getElem?_drop] at hn
  have := h.others _ j hn hc
  omega

theorem readLine_eq : readLine line = (i.action line rest).map fun a => ⟨some a, none, false, false⟩ := by
  have hi := List.mem_of_getElem? hk
  have hfind : i.find? line = some (i.action line rest) := by
    rw [Idiom.find?_eq, (opening?_eq_some_iff hi).mpr ⟨before, hf⟩, Option.map_some]
  have hother {n : Nat} {j : Idiom} (hn : idioms[n]? = some j) (hne : n ≠ k) : j.find? line = none :=
    Idiom.find?_eq_none.mpr ((opening?_eq_none_iff (List.mem_of_getElem? hn)).mpr fun hc => hne (h.others n j hn hc))
  have hbefore : ∀ j ∈ idioms.take k, ∀ e, j.find? line ≠ some (.error e) := by
    intro j hj e
    obtain ⟨n, hn⟩ := List.getElem?_of_mem hj
    rw [List.getElem?_take] at hn
    split at hn
    · next hlt => simp [hother hn (by omega)]
    · cases hn
  have hafter : ∀ j ∈ idioms.drop (k + 1), j.find? line = none := by
    intro j hj
    obtain ⟨n, hn⟩ := List.getElem?_of_mem hj
    rw [List.getElem?_drop] at hn
    exact hother hn (by omega)
  have hretries := retryDigits?_eq_none_iff.mpr h.noRetries
  have hskips : skipsErrors line = false := by
    cases hs : skipsErrors line with
    | false => rfl
    | true => exact absurd (skipsErrors_iff.mp hs).1 h.noWarning
  cases ha : i.action line rest with
  | error e =>
    rw [ha] at hfind
    unfold readLine
    rw [findAction_error none hk hbefore hfind]
    rfl
  | ok a =>
    rw [ha] at hfind
    rw [Script.readLine_eq (findAction_ok none hk hbefore hfind hafter), hretries, hskips]
    rfl

end

end CallsOnly

/-! ## Two lines joined -/

theorem exists_trim_joined {first second : List Char} (h : trim first ≠ []) (h' : trim second ≠ []) : ∃ gap gap',
    (∀ c ∈ gap, isBlank c = true) ∧ (∀ c ∈ gap', isBlank c = true) ∧
      trim (first ++ "; ".toList ++ second) = trim first ++ (gap ++ ';' :: (gap' ++ trim second)) := by
  obtain ⟨before, gap, hfirst, hbefore, hgap⟩ := exists_blanks_trim first
  obtain ⟨gap', after, hsecond, hgap', hafter⟩ := exists_blanks_trim second
  refine ⟨gap, ' ' :: gap', hgap, ?_, ?_⟩
  · simp only [List.forall_mem_cons]
    exact ⟨by decide, hgap'⟩
  · have hcut : first ++ "; ".toList ++ second =
        before ++ ((trim first ++ (gap ++ ';' :: (' ' :: gap' ++ trim second))) ++ after) := by
      have hsign : "; ".toList = [';', ' '] := rfl
      conv_lhs => rw [hfirst, hsecond, hsign]
      simp only [List.append_assoc, List.cons_append, List.nil_append]
    have hc := List.head?_eq_some_head h
    have hd := List.getLast?_eq_some_getLast h'
    rw [hcut]
    refine trim_padded hbefore hafter ?_ ?_ (not_isBlank_head_trim hc) (not_isBlank_getLast_trim hd)
    · rw [List.head?_append, hc, Option.some_or]
    · simp [List.getLast?_append, List.getLast?_cons, hd]

theorem CallsOnly.readTexts_cons {k : Nat} {i : Idiom} {line before rest : List Char} (h : CallsOnly k line)
    (hk : idioms[k]? = some i) (hf : i.IsFirstCall line before rest) (said : Said) (texts : List (List Char)) :
    readTexts said (line :: texts) = (i.action line rest).bind fun a => readTexts (some a, said.2) texts := by
  have hr := h.readLine_eq hk hf
  cases ha : i.action line rest with
  | error e =>
    rw [ha] at hr
    exact readTexts_cons_error hr said texts
  | ok a =>
    rw [ha] at hr
    rw [Script.readTexts_cons hr]
    simp [LineReading.addTo, Except.bind]

/-- What comes of a block when two of its lines are joined. -/
theorem readTexts_joined {k : Nat} {first second joined : List Char} {said result : Said} {texts rest : List (List Char)}
    (h₁ : CallsOnly k first) (h₂ : CallsOnly k second) (hj : CallsOnly k joined) (ordinal : Nat)
    (h : readTexts said (texts ++ ([first, second] ++ rest)) = .ok result) :
    (∃ result', readTexts said (texts ++ ([joined] ++ rest)) = .ok result' ∧ stepOf ordinal result' = stepOf ordinal result) ↔
      ∃ a, Says joined a ∧ (Says second a ∨ ∃ text ∈ rest, HasCall text) := by
  obtain ⟨i, hk, hc₁⟩ := h₁.called
  obtain ⟨i₂, hk₂, hc₂⟩ := h₂.called
  obtain ⟨i₃, hk₃, hc₃⟩ := hj.called
  obtain rfl : i = i₂ := Option.some.inj (hk.symm.trans hk₂)
  obtain rfl : i = i₃ := Option.some.inj (hk.symm.trans hk₃)
  have hi := List.mem_of_getElem? hk
  obtain ⟨x₁, rest₁, hf₁⟩ := exists_isFirstCall hi hc₁
  obtain ⟨x₂, rest₂, hf₂⟩ := exists_isFirstCall hi hc₂
  obtain ⟨x₃, rest₃, hf₃⟩ := exists_isFirstCall hi hc₃
  simp only [hj.says_iff hk hf₃, h₂.says_iff hk hf₂]
  rw [readTexts_append] at h ⊢
  cases hs : readTexts said texts with
  | error e =>
    rw [hs] at h
    cases h
  | ok said₀ =>
    rw [hs] at h
    simp only [Except.bind, List.cons_append, List.nil_append, h₁.readTexts_cons hk hf₁, h₂.readTexts_cons hk hf₂,
      hj.readTexts_cons hk hf₃] at h ⊢
    cases ha₁ : i.action first rest₁ with
    | error e =>
      rw [ha₁] at h
      cases h
    | ok a₁ =>
      cases ha₂ : i.action second rest₂ with
      | error e =>
        simp only [ha₁, ha₂] at h
        cases h
      | ok a₂ =>
        simp only [ha₁, ha₂] at h
        obtain ⟨hcall, hnone⟩ := readTexts_action h
        cases ha : i.action joined rest₃ with
        | error e => simp
        | ok a =>
          -- a later call replaces both actions; without one they are compared
          by_cases hlater : ∃ text ∈ rest, HasCall text
          · simp [hcall hlater (some a), hlater]
          · obtain ⟨hresult, hkept⟩ := hnone hlater
            simp [hkept (some a), hlater, stepOf, hresult, eq_comm]

/-- **Two lines joined.** Two lines of a block that call the same idiom, and no
other, are joined by a semicolon. The joined line is read at the call of the
first line, and the steps of the script stay the same if and only if this says
what the second line says, or a later line of the block has a call. -/
theorem joined_keeps_steps_iff {default : Int} {script joined : String} {c : Compiled} {before after : List (List Char)}
    {first second : List Char} {k : Nat} (hc : compile default script = .ok c)
    (hscript : lines script.toList = before ++ first :: second :: after)
    (hjoined : lines joined.toList = before ++ (first ++ "; ".toList ++ second) :: after)
    (hblock : ∃ l ∈ before, isMarker (trim l) = true) (h₁ : CallsOnly k (trim first)) (h₂ : CallsOnly k (trim second)) :
    (∃ i x rest more, idioms[k]? = some i ∧ i.IsFirstCall (trim first) x rest ∧
        i.IsFirstCall (trim (first ++ "; ".toList ++ second)) x (rest ++ more)) ∧
      ((∃ c', compile default joined = .ok c' ∧ c'.steps = c.steps) ↔
        ∃ a, Says (trim (first ++ "; ".toList ++ second)) a ∧
          (Says (trim second) a ∨ ∃ text ∈ (after.map trim).takeWhile fun text => !isMarker text, HasCall text)) := by
  obtain ⟨gap, gap', hgap, hgap', hline⟩ := exists_trim_joined h₁.ne_nil h₂.ne_nil
  have hj : CallsOnly k (trim (first ++ "; ".toList ++ second)) := hline ▸ h₁.joined h₂ hgap hgap'
  constructor
  · obtain ⟨i, hk, hcall⟩ := h₁.called
    have hi := List.mem_of_getElem? hk
    obtain ⟨x, rest, hf⟩ := exists_isFirstCall hi hcall
    exact ⟨i, x, rest, _, hk, hf, hline ▸ hf.joined hgap hgap' hi⟩
  · have hd : 0 ≤ default := by
      by_contra hd
      rw [compile, retryDefault, if_pos (by omega)] at hc
      cases hc
    rw [compile_eq_compileWith hd] at hc ⊢
    obtain ⟨bs, texts, hwithin⟩ := texts_within hblock
    have hbody : ∀ l ∈ [first, second], isMarker (trim l) = false := by
      simp only [List.forall_mem_cons]
      exact ⟨h₁.noMarker, h₂.noMarker, by simp⟩
    have hbody' : ∀ l ∈ [first ++ "; ".toList ++ second], isMarker (trim l) = false := by
      simp only [List.forall_mem_cons]
      exact ⟨hj.noMarker, by simp⟩
    have hsteps := compileWith_steps_iff.mp ⟨c, hc, rfl⟩
    rw [hwithin hscript hbody] at hsteps
    obtain ⟨said, hsaid, hreplace⟩ := stepsOf_replace hsteps
    rw [compileWith_steps_iff, hwithin hjoined hbody', hreplace]
    exact readTexts_joined h₁ h₂ hj _ hsaid

/-- With a click after them, it does not matter which of two pages is opened. -/
theorem joined_keeps_steps_iff_visits :
    CallsOnly 0 "page.goto('/a')".toList ∧ CallsOnly 0 "page.goto('/b')".toList ∧
      compile 3 "# step 1\npage.goto('/a')\npage.goto('/b')\npage.click('#c')" =
        .ok ⟨[⟨"step-1", 1, .click "#c", [], ⟨false, 3⟩⟩], []⟩ ∧
      ∃ c', compile 3 "# step 1\npage.goto('/a'); page.goto('/b')\npage.click('#c')" = .ok c' ∧
        c'.steps = [⟨"step-1", 1, .click "#c", [], ⟨false, 3⟩⟩] := by
  have hc : compile 3 "# step 1\npage.goto('/a')\npage.goto('/b')\npage.click('#c')" =
      .ok ⟨[⟨"step-1", 1, .click "#c", [], ⟨false, 3⟩⟩], []⟩ := by rfl
  have h₁ : CallsOnly 0 "page.goto('/a')".toList := by decide
  have h₂ : CallsOnly 0 "page.goto('/b')".toList := by decide
  have hscript : lines "# step 1\npage.goto('/a')\npage.goto('/b')\npage.click('#c')".toList =
      ["# step 1".toList] ++ "page.goto('/a')".toList :: "page.goto('/b')".toList :: ["page.click('#c')".toList] := by rfl
  have hjoined : lines "# step 1\npage.goto('/a'); page.goto('/b')\npage.click('#c')".toList =
      ["# step 1".toList] ++ ("page.goto('/a')".toList ++ "; ".toList ++ "page.goto('/b')".toList) ::
        ["page.click('#c')".toList] := by rfl
  have hblock : ∃ l ∈ ["# step 1".toList], isMarker (trim l) = true := ⟨"# step 1".toList, by simp, by decide⟩
  have hsays : Says (trim ("page.goto('/a')".toList ++ "; ".toList ++ "page.goto('/b')".toList)) (.navigate "/a") :=
    (says_of_findAction (by rfl)).2
  have hlater : ∃ text ∈ (["page.click('#c')".toList].map trim).takeWhile fun text => !isMarker text, HasCall text :=
    ⟨"page.click('#c')".toList, by decide, by decide⟩
  exact ⟨h₁, h₂, hc, (joined_keeps_steps_iff hc hscript hjoined hblock h₁ h₂).2.mpr ⟨_, hsays, .inr hlater⟩⟩

/-- Of two clicks on two lines the second counts, and on one line the first. -/
theorem joined_clicks_differ :
    CallsOnly 1 "page.click('#a')".toList ∧ CallsOnly 1 "page.click('#b')".toList ∧
      compile 3 "// step 1\npage.click('#a')\npage.click('#b')" = .ok ⟨[⟨"step-1", 1, .click "#b", [], ⟨false, 3⟩⟩], []⟩ ∧
      compile 3 "// step 1\npage.click('#a'); page.click('#b')" = .ok ⟨[⟨"step-1", 1, .click "#a", [], ⟨false, 3⟩⟩], []⟩ :=
  ⟨by decide, by decide, rfl, rfl⟩

end BrowserPilot.Script
