import BrowserPilot.Proofs.Script.Calls

/-!
# Rendered scripts, line by line

In the script of a step only two lines say something of it: the one that sets
its retries and the one of its call. The others are fixed but for the number of
the step. So every step of a rendered script is compiled by itself.
-/

namespace BrowserPilot.Script

open Text

/-! ## Single lines -/

theorem readLine_eq {line : List Char} {action : Option Action} (h : findAction line idioms none = .ok action) :
    readLine line = match retryDigits? line with
      | none => .ok ⟨action, none, skipsErrors line, action.isNone && hasPageCall line⟩
      | some digits => (number digits).map fun n => ⟨action, some n, skipsErrors line, action.isNone && hasPageCall line⟩ := by
  unfold readLine
  rw [h]
  cases retryDigits? line with
  | none => rfl
  | some digits =>
    simp only [bind, Except.bind]
    cases number digits <;> rfl

def LineReading.nothing : LineReading := ⟨none, none, false, false⟩

theorem Draft.add_nothing (d : Draft) (n : Nat) (text : List Char) : d.add n text .nothing = d := by
  cases d with
  | mk action policy warnings => simp [Draft.add, LineReading.nothing]

theorem findAction_missing {line : List Char} (h : '.' ∉ line) : findAction line idioms none = .ok none :=
  findAction_none (fun _ hj => Idiom.find?_eq_none.mpr (opening?_missing hj h)) none

theorem readLine_missing {line : List Char} (h : '.' ∉ line) :
    readLine line = match retryDigits? line with
      | none => .ok .nothing
      | some digits => (number digits).map fun n => ⟨none, some n, false, false⟩ := by
  have hw : skipsErrors line = false := by rw [skipsErrors_eq, hasWarning_missing h, Bool.false_and]
  rw [readLine_eq (findAction_missing h), hw, hasPageCall_missing h]
  rfl

theorem readLine_nothing {line : List Char} (h : '.' ∉ line) (hs : '=' ∉ line) : readLine line = .ok .nothing := by
  rw [readLine_missing h, retryDigits?_missing hs]

/-! ## The lines of a step -/

theorem isMarker_head {line : List Char} {c : Char} (h : line.head? = some c) (hs : c ≠ '/') (hh : c ≠ '#') :
    isMarker line = false := by
  cases line with
  | nil => rfl
  | cons c' rest =>
    cases h
    have hn : afterAny? ["//".toList, "#".toList] (c :: rest) = none := by
      simp [afterAny?, after?, List.isPrefixOf?, Ne.symm hs, Ne.symm hh]
    rw [isMarker, hn]

def IsSilent (line : List Char) : Prop := isMarker line = false ∧ readLine line = .ok .nothing

def IsPlain (cs : List Char) : Prop := '.' ∉ cs ∧ '=' ∉ cs ∧ '/' ∉ cs ∧ '#' ∉ cs

instance (cs : List Char) : Decidable (IsPlain cs) := inferInstanceAs (Decidable (_ ∧ _ ∧ _ ∧ _))

theorem IsPlain.append {s t : String} (hs : IsPlain s.toList) (ht : IsPlain t.toList) : IsPlain (s ++ t).toList := by
  simp only [IsPlain, String.toList_append, List.mem_append, not_or]
  exact ⟨⟨hs.1, ht.1⟩, ⟨hs.2.1, ht.2.1⟩, ⟨hs.2.2.1, ht.2.2.1⟩, hs.2.2.2, ht.2.2.2⟩

theorem not_mem_toString {c : Char} (hc : c.isDigit = false) (n : Nat) : c ∉ (toString n).toList := by
  rw [Nat.toString_eq_repr, Nat.toList_repr]
  intro h
  rw [isDigit_toDigits h] at hc
  cases hc

theorem IsPlain.toString (n : Nat) : IsPlain (toString n).toList :=
  ⟨not_mem_toString rfl n, not_mem_toString rfl n, not_mem_toString rfl n, not_mem_toString rfl n⟩

theorem IsPlain.isSilent {line : List Char} (h : IsPlain line) : IsSilent (trim line) := by
  have hno {c : Char} (hc : c ∉ line) : c ∉ trim line := fun hm => hc (mem_of_mem_trim hm)
  refine ⟨?_, readLine_nothing (hno h.1) (hno h.2.1)⟩
  cases ht : (trim line).head? with
  | none => rw [List.head?_eq_none_iff.mp ht, isMarker]; rfl
  | some c =>
    have hmem : c ∈ trim line := List.mem_of_mem_head? ht
    exact isMarker_head ht (fun he => hno h.2.2.1 (he ▸ hmem)) fun he => hno h.2.2.2 (he ▸ hmem)

theorem isWord_toDigits {n : Nat} {c : Char} (h : c ∈ Nat.toDigits 10 n) : isWord c = true := by
  have hd : c.isDigit = true := isDigit_toDigits h
  simp [isWord, isAsciiWord, Char.isAlphanum, hd]

theorem retryAt?_assignment (index n : Nat) :
    retryAt? ("retries_step".toList ++ (Nat.toDigits 10 index ++ (" = ".toList ++ (Nat.toDigits 10 n ++ ";".toList)))) =
      some (Nat.toDigits 10 n) := by
  have hw : (Nat.toDigits 10 index ++ (" = ".toList ++ (Nat.toDigits 10 n ++ ";".toList))).dropWhile isWord =
      " = ".toList ++ (Nat.toDigits 10 n ++ ";".toList) :=
    (List.dropWhile_append_of_pos fun c hc => isWord_toDigits hc).trans (List.dropWhile_cons_of_neg (by decide))
  have hb : skipBlanks (" = ".toList ++ (Nat.toDigits 10 n ++ ";".toList)) =
      '=' :: (" ".toList ++ (Nat.toDigits 10 n ++ ";".toList)) := rfl
  have hd : (leadingDigits (skipBlanks (" ".toList ++ (Nat.toDigits 10 n ++ ";".toList)))).1 = Nat.toDigits 10 n :=
    leadingDigits_toDigits n (c := ';') (by decide) []
  rw [retryAt?, after?_append]
  simp only [hw, hb, hd]
  simp [Nat.toDigits_ne_nil]

def letLine (index n : Nat) : String := "    let " ++ ("retries_step" ++ toString index) ++ " = " ++ toString n ++ ";"

theorem letLine_toList (index n : Nat) :
    (letLine index n).toList =
      "    ".toList ++ ("let ".toList ++ ("retries_step".toList ++
        (Nat.toDigits 10 index ++ (" = ".toList ++ (Nat.toDigits 10 n ++ ";".toList))))) := by
  have hl : "    let ".toList = "    ".toList ++ "let ".toList := rfl
  simp only [letLine, String.toList_append, hl, List.append_assoc, Nat.toString_eq_repr, Nat.toList_repr]

theorem trim_letLine (index n : Nat) :
    trim (letLine index n).toList =
      "let ".toList ++ ("retries_step".toList ++
        (Nat.toDigits 10 index ++ (" = ".toList ++ (Nat.toDigits 10 n ++ ";".toList)))) := by
  rw [letLine_toList]
  refine trim_indented (c := 'l') (d := ';') (by decide) rfl ?_ (by decide) (by decide)
  simp only [List.getLast?_append]
  rfl

theorem readLine_letLine (index n : Nat) :
    readLine (trim (letLine index n).toList) =
      (number (Nat.toDigits 10 n)).map fun n => ⟨none, some n, false, false⟩ := by
  have hdot : '.' ∉ (letLine index n).toList := by
    simp only [letLine, String.toList_append, List.mem_append, not_or]
    exact ⟨⟨⟨⟨by decide, by decide, not_mem_toString (by decide) index⟩, by decide⟩, not_mem_toString (by decide) n⟩, by decide⟩
  have hr : retryDigits? (trim (letLine index n).toList) = some (Nat.toDigits 10 n) := by
    rw [trim_letLine, retryDigits?_eq]
    show firstFrom true retryAt? false ("retries_step".toList ++ _) = _
    exact firstFrom_head (retryAt?_assignment index n)
  rw [readLine_missing fun h => hdot (mem_of_mem_trim h), hr]

theorem isMarker_letLine (index n : Nat) : isMarker (trim (letLine index n).toList) = false := by
  rw [trim_letLine]
  exact isMarker_head (c := 'l') rfl (by decide) (by decide)

def whileLine (index : Nat) : String := "    while (" ++ ("retries_step" ++ toString index) ++ " >= 0) \x7b"

/-- A comparison with a retry counter is no assignment to it. -/
theorem whileLine_silent (index : Nat) : IsSilent (trim (whileLine index).toList) := by
  have hl : (whileLine index).toList =
      "    ".toList ++ (("while (retries_step".toList ++ (Nat.toDigits 10 index ++ [' '])) ++ '>' :: "= 0) \x7b".toList) := by
    have ho : "    while (".toList ++ "retries_step".toList = "    ".toList ++ "while (retries_step".toList := rfl
    have hc : " >= 0) \x7b".toList = ' ' :: '>' :: "= 0) \x7b".toList := rfl
    rw [whileLine, String.toList_append, String.toList_append, String.toList_append, hc, Nat.toString_eq_repr, Nat.toList_repr,
      ← List.append_assoc "    while (".toList, ho]
    simp only [List.append_assoc, List.cons_append, List.nil_append]
  have ht : trim (whileLine index).toList =
      ("while (retries_step".toList ++ (Nat.toDigits 10 index ++ [' '])) ++ '>' :: "= 0) \x7b".toList := by
    rw [hl]
    refine trim_indented (c := 'w') (d := '\x7b') (by decide) rfl ?_ (by decide) (by decide)
    simp only [List.getLast?_append, List.getLast?_cons]
    rfl
  have hdot : '.' ∉ (whileLine index).toList := by
    simp only [whileLine, String.toList_append, List.mem_append, not_or]
    exact ⟨⟨by decide, by decide, not_mem_toString (by decide) index⟩, by decide⟩
  have hsign : '=' ∉ "while (retries_step".toList ++ (Nat.toDigits 10 index ++ [' ']) := by
    rw [List.mem_append, not_or]
    exact ⟨by decide, not_mem_digits (by decide) (by decide)⟩
  have hstop : StopsAt '>' retryAt? := retryAt?_stopsAt (by decide) (by decide) (by decide) (by decide)
  -- no assignment reaches over the sign of the comparison, and none stands before it
  have hr : retryDigits? (trim (whileLine index).toList) = none := by
    rw [ht, retryDigits?_eq, hstop.firstFrom_append, ← retryDigits?_eq, retryDigits?_missing hsign]
    decide
  constructor
  · rw [ht]
    exact isMarker_head (c := 'w') rfl (by decide) (by decide)
  · rw [readLine_missing fun h => hdot (mem_of_mem_trim h), hr]

def markerLine (index : Nat) (k : ActionKind) : String := "    // Step " ++ toString index ++ ": " ++ label k

theorem label_ends (k : ActionKind) : ∃ c, (label k).toList.getLast? = some c ∧ isBlank c = false := by
  cases k
  all_goals exact ⟨_, rfl, by decide⟩

theorem isMarker_markerLine (index : Nat) (k : ActionKind) : isMarker (trim (markerLine index k).toList) = true := by
  have hl : (markerLine index k).toList =
      "    ".toList ++ ("// Step ".toList ++ (Nat.toDigits 10 index ++ (": ".toList ++ (label k).toList))) := by
    have ho : "    // Step ".toList = "    ".toList ++ "// Step ".toList := rfl
    simp only [markerLine, String.toList_append, ho, List.append_assoc, Nat.toString_eq_repr, Nat.toList_repr]
  have ht : trim (markerLine index k).toList =
      "// Step ".toList ++ (Nat.toDigits 10 index ++ (": ".toList ++ (label k).toList)) := by
    obtain ⟨last, he, hb⟩ := label_ends k
    rw [hl]
    refine trim_indented (c := '/') (d := last) (by decide) rfl ?_ (by decide) hb
    simp only [List.getLast?_append, he, Option.some_or]
  have hd : (leadingDigits (skipBlanks (" ".toList ++ (Nat.toDigits 10 index ++ (": ".toList ++ (label k).toList))))).1 =
      Nat.toDigits 10 index :=
    leadingDigits_toDigits index (c := ':') (by decide) (' ' :: (label k).toList)
  rw [ht]
  show (!(leadingDigits (skipBlanks (" ".toList ++ (Nat.toDigits 10 index ++ (": ".toList ++ (label k).toList))))).1.isEmpty) = true
  rw [hd]
  simp [Nat.toDigits_ne_nil]

theorem readLine_markerLine (index : Nat) (k : ActionKind) : readLine (trim (markerLine index k).toList) = .ok .nothing := by
  have hlabel : IsPlain (label k).toList := by cases k <;> decide
  have h : '.' ∉ (markerLine index k).toList ∧ '=' ∉ (markerLine index k).toList := by
    simp only [markerLine, String.toList_append, List.mem_append, not_or]
    exact ⟨⟨⟨⟨by decide, not_mem_toString rfl index⟩, by decide⟩, hlabel.1⟩,
      ⟨⟨by decide, not_mem_toString rfl index⟩, by decide⟩, hlabel.2.1⟩
  exact readLine_nothing (fun hm => h.1 (mem_of_mem_trim hm)) fun hm => h.2 (mem_of_mem_trim hm)

theorem callOf_ends (a : Action) :
    ((callOf a).toList.head? = some 'a' ∨ (callOf a).toList.head? = some 'c') ∧ (callOf a).toList.getLast? = some ';' := by
  cases a with
  | navigate url => rw [callOf_navigate]; exact ⟨.inl rfl, framed_getLast? rfl⟩
  | click selector => rw [callOf_click]; exact ⟨.inl rfl, framed_getLast? rfl⟩
  | type selector text => rw [callOf_type]; exact ⟨.inl rfl, framed_getLast? rfl⟩
  | wait mode ms selector =>
    cases mode with
    | time => rw [callOf_waitForTimeout]; exact ⟨.inl rfl, digits_getLast? _ _ ms rfl⟩
    | selector => rw [callOf_waitForSelector]; exact ⟨.inl rfl, framed_getLast? rfl⟩
  | extract selector => rw [callOf_extract]; exact ⟨.inr rfl, framed_getLast? rfl⟩
  | screenshot fullPage => cases fullPage <;> exact ⟨.inl rfl, rfl⟩
  | scroll target direction =>
    cases target with
    | bottom => rw [callOf_scrollToEnd]; exact ⟨.inl rfl, rfl⟩
    | pixels n => rw [callOf_scrollTo]; exact ⟨.inl rfl, digits_getLast? _ _ n rfl⟩

theorem trim_callLine (a : Action) : trim ("        " ++ callOf a).toList = (callOf a).toList := by
  obtain ⟨hf, hl⟩ := callOf_ends a
  rw [String.toList_append]
  rcases hf with hf | hf
  · exact trim_indented (by decide) hf hl (by decide) (by decide)
  · exact trim_indented (by decide) hf hl (by decide) (by decide)

theorem isMarker_callLine (a : Action) : isMarker (trim ("        " ++ callOf a).toList) = false := by
  rw [trim_callLine]
  rcases (callOf_ends a).1 with hf | hf
  · exact isMarker_head hf (by decide) (by decide)
  · exact isMarker_head hf (by decide) (by decide)

/-- Whatever the texts of an action are, its own call opens in the line. -/
theorem callOf_opens (a : Action) : ∃ i, idioms[a.place]? = some i ∧ (i.opening? (callOf a).toList).isSome = true := by
  refine ⟨_, List.getElem?_eq_getElem (Nat.lt_succ_of_le (Action.place_le a)), ?_⟩
  cases a with
  | navigate url => rw [callOf_navigate]; rfl
  | click selector => rw [callOf_click]; rfl
  | type selector text => rw [callOf_type]; rfl
  | wait mode ms selector =>
    cases mode with
    | time => rw [callOf_waitForTimeout]; rfl
    | selector => rw [callOf_waitForSelector]; rfl
  | extract selector => rw [callOf_extract]; rfl
  | screenshot fullPage => cases fullPage <;> rfl
  | scroll target direction =>
    cases target with
    | bottom => rw [callOf_scrollToEnd]; rfl
    | pixels n => rw [callOf_scrollTo]; rfl

theorem findAction_eq_none {line : List Char} {l : List Idiom} {found : Option Action}
    (h : findAction line l found = .ok none) : found = none ∧ ∀ i ∈ l, i.find? line = none := by
  induction l generalizing found with
  | nil =>
    cases h
    exact ⟨rfl, by simp⟩
  | cons i rest ih =>
    unfold findAction at h
    cases hi : i.find? line with
    | none =>
      rw [hi] at h
      obtain ⟨hf, hn⟩ := ih h
      exact ⟨hf, by simpa [hi] using hn⟩
    | some r =>
      rw [hi] at h
      cases r with
      | error e => cases h
      | ok a => exact absurd (ih h).1 (by simp)

/-- The line of a call has an action, though maybe not the one rendered. -/
theorem readLine_callOf_some {a : Action} {r : LineReading} (h : readLine (callOf a).toList = .ok r) :
    ∃ b, r.action = some b ∧ r.isUnknownCall = false := by
  obtain ⟨hf, _, _, hunknown⟩ := readLine_ok h
  cases ha : r.action with
  | none =>
    obtain ⟨i, hk, ho⟩ := callOf_opens a
    have hn := (findAction_eq_none (ha ▸ hf)).2 i (List.mem_of_getElem? hk)
    rw [Idiom.find?_eq_none.mp hn] at ho
    cases ho
  | some b =>
    rw [ha] at hunknown
    exact ⟨b, rfl, hunknown⟩

theorem exhaustedLine (p : ErrorPolicy) :
    isMarker (trim ("          " ++ onExhausted p).toList) = false ∧
      readLine (trim ("          " ++ onExhausted p).toList) = .ok ⟨none, none, p.ignoresErrors, false⟩ := by
  unfold onExhausted
  cases p.ignoresErrors with
  | true => exact ⟨by decide, rfl⟩
  | false => exact ⟨by decide, rfl⟩

/-! ## Steps and blocks -/

def beforeCall (index : Nat) : List String := [whileLine index, "      try \x7b"]

def afterCall (index : Nat) : List String := [
  "        break;",
  "      \x7d catch (stepError) \x7b",
  "        " ++ ("retries_step" ++ toString index) ++ "--;",
  "        if (" ++ ("retries_step" ++ toString index) ++ " < 0) \x7b"]

def stepEnd : List String := [
  "          break;",
  "        \x7d",
  "        await new Promise((resolve) => setTimeout(resolve, 1000));",
  "      \x7d",
  "    \x7d",
  ""]

def stepBody (index : Nat) (s : Step) : List String :=
  letLine index s.policy.retries :: (beforeCall index ++ ("        " ++ callOf s.action) ::
    (afterCall index ++ ("          " ++ onExhausted s.policy) :: stepEnd))

theorem stepLines_eq (index : Nat) (s : Step) : stepLines index s = markerLine index s.kind :: stepBody index s := rfl

theorem beforeCall_silent (index : Nat) : ∀ l ∈ beforeCall index, IsSilent (trim l.toList) := by
  have htry : IsPlain "      try \x7b".toList := by decide
  simp only [beforeCall, List.forall_mem_cons]
  exact ⟨whileLine_silent index, htry.isSilent, by simp⟩

theorem afterCall_silent (index : Nat) : ∀ l ∈ afterCall index, IsSilent (trim l.toList) := by
  have hbreak : IsPlain "        break;".toList := by decide
  have hcatch : IsPlain "      \x7d catch (stepError) \x7b".toList := by decide
  have hname : IsPlain ("retries_step" ++ toString index).toList := IsPlain.append (by decide) (IsPlain.toString index)
  have hcount : IsPlain ("        " ++ ("retries_step" ++ toString index) ++ "--;").toList :=
    (IsPlain.append (by decide) hname).append (by decide)
  have hif : IsPlain ("        if (" ++ ("retries_step" ++ toString index) ++ " < 0) \x7b").toList :=
    (IsPlain.append (by decide) hname).append (by decide)
  simp only [afterCall, List.forall_mem_cons]
  exact ⟨hbreak.isSilent, hcatch.isSilent, hcount.isSilent, hif.isSilent, by simp⟩

theorem stepEnd_silent : ∀ l ∈ stepEnd, IsSilent (trim l.toList) := by
  have hplain : ∀ l ∈ ["          break;", "        \x7d", "      \x7d", "    \x7d", ""], IsPlain l.toList := by decide
  have hwait : IsSilent (trim "        await new Promise((resolve) => setTimeout(resolve, 1000));".toList) := ⟨by decide, rfl⟩
  intro l hl
  simp only [stepEnd, List.mem_cons, List.not_mem_nil, or_false] at hl
  rcases hl with rfl | rfl | rfl | rfl | rfl | rfl
  · exact (hplain _ (by simp)).isSilent
  · exact (hplain _ (by simp)).isSilent
  · exact hwait
  · exact (hplain _ (by simp)).isSilent
  · exact (hplain _ (by simp)).isSilent
  · exact (hplain _ (by simp)).isSilent

theorem opening_silent : ∀ l ∈ opening, IsSilent (trim l.toList) := by
  have hplain : ∀ l ∈ opening, IsPlain l.toList := by decide
  exact fun l hl => (hplain l hl).isSilent

theorem closing_silent : ∀ l ∈ closing, IsSilent (trim l.toList) := by
  have hplain : ∀ l ∈ closing.take 2 ++ closing.drop 3, IsPlain l.toList := by decide
  have hreturn : IsSilent (trim "    return \x7b success: false, error: error.message \x7d;".toList) := ⟨by decide, rfl⟩
  intro l hl
  simp only [closing, List.mem_cons, List.not_mem_nil, or_false] at hl
  rcases hl with rfl | rfl | rfl | rfl | rfl
  · exact (hplain _ (by simp [closing])).isSilent
  · exact (hplain _ (by simp [closing])).isSilent
  · exact hreturn
  · exact (hplain _ (by simp [closing])).isSilent
  · exact (hplain _ (by simp [closing])).isSilent

theorem mem_numberedFrom {k : Nat} {ls : List String} {l : Line} (h : l ∈ numberedFrom k (ls.map String.toList)) :
    ∃ t ∈ ls, l.text = trim t.toList := by
  induction ls generalizing k with
  | nil => cases h
  | cons t ls ih =>
    rcases List.mem_cons.mp h with rfl | h
    · exact ⟨t, by simp, rfl⟩
    · obtain ⟨t', ht, he⟩ := ih h
      exact ⟨t', by simp [ht], he⟩

def AllSilent (ls : List Line) : Prop := ∀ l ∈ ls, IsSilent l.text

theorem numberedFrom_silent {ls : List String} (h : ∀ l ∈ ls, IsSilent (trim l.toList)) (k : Nat) :
    AllSilent (numberedFrom k (ls.map String.toList)) := by
  intro l hl
  obtain ⟨t, ht, he⟩ := mem_numberedFrom hl
  exact he ▸ h t ht

theorem readLines_silent {ls : List Line} (h : AllSilent ls) (d : Draft) (rest : List Line) :
    readLines d (ls ++ rest) = readLines d rest := by
  induction ls with
  | nil => rfl
  | cons l ls ih =>
    have ih := ih fun l' hl' => h l' (by simp [hl'])
    rw [List.cons_append, readLines, (h l (by simp)).2]
    simp only [Draft.add_nothing, ih]

theorem stepBody_noMarker (index : Nat) (s : Step) : ∀ l ∈ stepBody index s, isMarker (trim l.toList) = false := by
  intro l hl
  simp only [stepBody, List.mem_cons, List.mem_append] at hl
  rcases hl with rfl | hl | rfl | hl | rfl | hl
  · exact isMarker_letLine index s.policy.retries
  · exact (beforeCall_silent index l hl).1
  · exact isMarker_callLine s.action
  · exact (afterCall_silent index l hl).1
  · exact (exhaustedLine s.policy).1
  · exact (stepEnd_silent l hl).1

def renderedFrom (k index : Nat) (steps : List Step) : List Line :=
  numberedFrom k ((stepsFrom index steps ++ closing).map String.toList)

theorem splitBlocks_rendered_nil (k index : Nat) :
    splitBlocks (renderedFrom k index []) = (renderedFrom k index [], []) := by
  have h := numberedFrom_silent closing_silent k
  have hs := splitBlocks_free (fun l hl => (h l hl).1) []
  rwa [List.append_nil] at hs

theorem renderedFrom_cons (k index : Nat) (s : Step) (rest : List Step) :
    renderedFrom k index (s :: rest) = ⟨k, trim (markerLine index s.kind).toList⟩ ::
      (numberedFrom (k + 1) ((stepBody index s).map String.toList) ++
        renderedFrom (k + 1 + ((stepBody index s).map String.toList).length) (index + 1) rest) := by
  simp only [renderedFrom, stepsFrom, stepLines_eq, List.cons_append, List.map_cons, List.append_assoc, List.map_append,
    numberedFrom, numberedFrom_append]

theorem splitBlocks_rendered_cons (k index : Nat) (s : Step) (rest : List Step) :
    ∃ k', splitBlocks (renderedFrom k index (s :: rest)) =
      ([], ⟨⟨k, trim (markerLine index s.kind).toList⟩, numberedFrom (k + 1) ((stepBody index s).map String.toList) ++
        (splitBlocks (renderedFrom k' (index + 1) rest)).1⟩ :: (splitBlocks (renderedFrom k' (index + 1) rest)).2) := by
  have hbody : ∀ l ∈ numberedFrom (k + 1) ((stepBody index s).map String.toList), isMarker l.text = false := by
    intro l hl
    obtain ⟨t, ht, he⟩ := mem_numberedFrom hl
    exact he ▸ stepBody_noMarker index s t ht
  refine ⟨k + 1 + ((stepBody index s).map String.toList).length, ?_⟩
  rw [renderedFrom_cons, splitBlocks_marker (isMarker_markerLine index s.kind), splitBlocks_free hbody]

theorem rendered_free (k index : Nat) (steps : List Step) : AllSilent (splitBlocks (renderedFrom k index steps)).1 := by
  cases steps with
  | nil =>
    rw [splitBlocks_rendered_nil]
    exact numberedFrom_silent closing_silent k
  | cons s rest =>
    obtain ⟨_, hs⟩ := splitBlocks_rendered_cons k index s rest
    rw [hs]
    intro l hl
    cases hl

/-! ## What a step is compiled to -/

/-- The step that the script of a step at a place in the order says. A number
of retries in a text of the action comes after the step's own. -/
def reread (index : Nat) (s : Step) : Except NumberTooLong Step :=
  (number (Nat.toDigits 10 s.policy.retries)).bind fun retries =>
    (readLine (callOf s.action).toList).map fun r =>
      { id := stepId index
        ordinal := index
        action := r.action.getD (.navigate "")
        policy := ⟨r.skipsErrors || s.policy.ignoresErrors, r.retries.getD retries⟩ }

def rereadFrom : Nat → List Step → Except NumberTooLong (List Step)
  | _, [] => .ok []
  | index, s :: rest => (reread index s).bind fun s' => (rereadFrom (index + 1) rest).map (s' :: ·)

theorem Block.compile_rendered (s : Step) (n index k : Nat) {free : List Line} (hfree : AllSilent free) :
    Block.compile n index ⟨⟨k, trim (markerLine index s.kind).toList⟩,
        numberedFrom (k + 1) ((stepBody index s).map String.toList) ++ free⟩ = (reread index s).map (·, []) := by
  have hcall : trim ("        " ++ callOf s.action).toList = (callOf s.action).toList := trim_callLine s.action
  unfold Block.compile reread
  rw [stepBody]
  simp only [List.map_cons, List.map_append, numberedFrom, numberedFrom_append, List.cons_append, List.append_assoc]
  rw [readLines_cons (readLine_markerLine index s.kind), Draft.add_nothing]
  have hlet := readLine_letLine index s.policy.retries
  cases hn : number (Nat.toDigits 10 s.policy.retries) with
  | error e =>
    rw [hn] at hlet
    rw [readLines_cons_error hlet]
    rfl
  | ok retries =>
    rw [hn] at hlet
    rw [readLines_cons hlet, readLines_silent (numberedFrom_silent (beforeCall_silent index) _), hcall]
    cases hr : readLine (callOf s.action).toList with
    | error e =>
      rw [readLines_cons_error hr]
      rfl
    | ok r =>
      obtain ⟨b, hb, hu⟩ := readLine_callOf_some hr
      rw [readLines_cons hr, readLines_silent (numberedFrom_silent (afterCall_silent index) _),
        readLines_cons (exhaustedLine s.policy).2, readLines_silent (numberedFrom_silent stepEnd_silent _),
        ← List.append_nil free, readLines_silent hfree]
      simp [Draft.add, readLines, hb, hu, Except.map, Except.bind, stepId]

theorem compileBlocks_rendered (steps : List Step) (n k index : Nat) :
    compileBlocks n index (splitBlocks (renderedFrom k index steps)).2 = (rereadFrom index steps).map (·, []) := by
  induction steps generalizing k index with
  | nil =>
    rw [splitBlocks_rendered_nil]
    rfl
  | cons s rest ih =>
    obtain ⟨k', hsplit⟩ := splitBlocks_rendered_cons k index s rest
    have hblock := Block.compile_rendered s n index k (rendered_free k' (index + 1) rest)
    rw [hsplit, rereadFrom]
    cases hs : reread index s with
    | error e =>
      rw [hs] at hblock
      rw [compileBlocks_cons_error hblock]
      rfl
    | ok s' =>
      rw [hs] at hblock
      rw [compileBlocks_cons hblock, ih k' (index + 1)]
      simp only [Except.bind]
      cases rereadFrom (index + 1) rest <;> rfl

/-! ## The text of a rendered script -/

def Unbroken (s : String) : Prop := ∀ c ∈ s.toList, isBreak c = false

instance (s : String) : Decidable (Unbroken s) :=
  decidable_of_iff (s.toList.all (fun c => !isBreak c) = true) (by simp [Unbroken])

theorem Unbroken.append {s t : String} (hs : Unbroken s) (ht : Unbroken t) : Unbroken (s ++ t) := by
  intro c hc
  rw [String.toList_append] at hc
  exact (List.mem_append.mp hc).elim (hs c) (ht c)

theorem Unbroken.toString (n : Nat) : Unbroken (toString n) := by
  intro c hc
  rw [Nat.toString_eq_repr, Nat.toList_repr] at hc
  exact not_isBreak_of_isDigit (isDigit_toDigits hc)

theorem callOf_unbroken {a : Action} (h : ∀ x ∈ a.texts, Unbroken x) : Unbroken (callOf a) := by
  have ha {opening x closing : String} (ho : Unbroken opening) (hx : Unbroken x) (hc : Unbroken closing) :
      Unbroken (opening ++ x ++ closing) := (ho.append hx).append hc
  cases a with
  | navigate url => exact ha (by decide) (h url (by simp [Action.texts])) (by decide)
  | click selector => exact ha (by decide) (h selector (by simp [Action.texts])) (by decide)
  | type selector text =>
    exact ha (ha (by decide) (h selector (by simp [Action.texts])) (by decide)) (h text (by simp [Action.texts])) (by decide)
  | wait mode ms selector =>
    cases mode with
    | time => exact ha (by decide) (Unbroken.toString ms) (by decide)
    | selector => exact ha (by decide) (h selector (by simp [Action.texts])) (by decide)
  | extract selector => exact ha (by decide) (h selector (by simp [Action.texts])) (by decide)
  | screenshot fullPage =>
    cases fullPage <;> decide
  | scroll target direction =>
    cases target with
    | bottom =>
      have hl : Unbroken "await page.evaluate(() => window.scrollTo(0, document.body.scrollHeight));" := by decide
      exact hl
    | pixels n => exact ha (by decide) (Unbroken.toString n) (by decide)

def OnOneLine (s : Step) : Prop := ∀ x ∈ s.action.texts, Unbroken x

instance (s : Step) : Decidable (OnOneLine s) := inferInstanceAs (Decidable (∀ x ∈ s.action.texts, Unbroken x))

theorem stepLines_unbroken {s : Step} (h : OnOneLine s) (index : Nat) : ∀ l ∈ stepLines index s, Unbroken l := by
  have hc : Unbroken ("retries_step" ++ toString index) := Unbroken.append (by decide) (Unbroken.toString index)
  have hlabel : Unbroken (label s.kind) := by
    cases s.kind <;> decide
  have hend : Unbroken (onExhausted s.policy) := by
    unfold onExhausted
    cases s.policy.ignoresErrors <;> decide
  have hclosed : ∀ l ∈ "      try \x7b" :: "        break;" :: "      \x7d catch (stepError) \x7b" :: stepEnd, Unbroken l := by decide
  intro l hl
  simp only [stepLines_eq, stepBody, beforeCall, afterCall, List.mem_cons, List.mem_append, List.not_mem_nil, or_false] at hl
  rcases hl with rfl | rfl | (rfl | rfl) | rfl | (rfl | rfl | rfl | rfl) | rfl | hl
  · exact ((Unbroken.append (by decide) (Unbroken.toString index)).append (by decide)).append hlabel
  · exact ((((Unbroken.append (by decide) hc).append (by decide)).append (Unbroken.toString _))).append (by decide)
  · exact (Unbroken.append (by decide) hc).append (by decide)
  · exact hclosed _ (by simp)
  · exact Unbroken.append (by decide) (callOf_unbroken h)
  · exact hclosed _ (by simp)
  · exact hclosed _ (by simp)
  · exact (Unbroken.append (by decide) hc).append (by decide)
  · exact (Unbroken.append (by decide) hc).append (by decide)
  · exact Unbroken.append (by decide) hend
  · exact hclosed l (by simp [hl])

theorem stepsFrom_unbroken {steps : List Step} (h : ∀ s ∈ steps, OnOneLine s) (index : Nat) :
    ∀ l ∈ stepsFrom index steps, Unbroken l := by
  induction steps generalizing index with
  | nil => simp [stepsFrom]
  | cons s rest ih =>
    intro l hl
    rcases List.mem_append.mp hl with hl | hl
    · exact stepLines_unbroken (h s (by simp)) index l hl
    · exact ih (fun s' hs' => h s' (by simp [hs'])) (index + 1) l hl

theorem lines_render {steps : List Step} (h : ∀ s ∈ steps, OnOneLine s) :
    lines (render steps).toList = (opening ++ stepsFrom 1 steps ++ closing).map String.toList := by
  have hfixed : ∀ l ∈ opening ++ closing, Unbroken l := by decide
  have hall : ∀ l ∈ (opening ++ stepsFrom 1 steps ++ closing).map String.toList, ∀ c ∈ l, isBreak c = false := by
    intro l hl
    obtain ⟨t, ht, rfl⟩ := List.mem_map.mp hl
    rcases List.mem_append.mp ht with ht | ht
    · rcases List.mem_append.mp ht with ht | ht
      · exact hfixed t (List.mem_append_left _ ht)
      · exact stepsFrom_unbroken h 1 t ht
    · exact hfixed t (List.mem_append_right _ ht)
  have hjoin : (render steps).toList =
      ((opening ++ stepsFrom 1 steps ++ closing).map String.toList).flatMap fun l => l ++ ['\n'] := by
    rw [render, String.toList_join, List.flatMap_map, List.flatMap_map]
    congr 1
    funext l
    rw [String.toList_append]
    rfl
  rw [hjoin, lines_flatMap hall]

theorem splitBlocks_render {steps : List Step} (h : ∀ s ∈ steps, OnOneLine s) :
    (splitBlocks (numberedFrom 1 (lines (render steps).toList))).2 = (splitBlocks (renderedFrom 3 1 steps)).2 := by
  have ho := numberedFrom_silent opening_silent 1
  have hlines : numberedFrom 1 (lines (render steps).toList) =
      numberedFrom 1 (opening.map String.toList) ++ renderedFrom 3 1 steps := by
    rw [lines_render h, List.append_assoc, List.map_append, numberedFrom_append]
    rfl
  rw [hlines, splitBlocks_free fun l hl => (ho l hl).1]

theorem compileWith_render_eq {steps : List Step} (h : ∀ s ∈ steps, OnOneLine s) (n : Nat) :
    compileWith n (render steps) = match rereadFrom 1 steps with
      | .ok again => .ok ⟨again, []⟩
      | .error e => .error (.numberTooLong e.digits) := by
  rw [compileWith, splitBlocks_render h, compileBlocks_rendered]
  cases rereadFrom 1 steps <;> rfl

end BrowserPilot.Script
