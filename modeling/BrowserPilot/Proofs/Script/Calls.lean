import BrowserPilot.Proofs.Script.Recorded

/-!
# Rendered calls

The line of a rendered call is read as its action. The quoted texts of the
action are all that can disturb this, since the line around them is fixed: they
can hold a number of their own that counts for the line, and they hold no call
that would count instead.
-/

namespace BrowserPilot.Script

open Text

/-! ## Texts between quotes -/

/-- A first piece, and quoted texts that have a piece after them. -/
def framed : List Char → List (List Char × List Char) → List Char
  | first, [] => first
  | first, (x, next) :: rest => first ++ '\'' :: (x ++ '\'' :: framed next rest)

theorem framed_mark {p : List Char → Bool} (hp : CutsAt '\'' p) (first : List Char) (rest : List (List Char × List Char)) :
    p (framed first rest) = (p first || rest.any fun r => p r.1 || p r.2) := by
  induction rest generalizing first with
  | nil => simp [framed]
  | cons r rest ih => rw [framed, hp.append, hp.append, ih, List.any_cons, Bool.or_assoc (p r.1)]

theorem framed_first {α : Type} {atWord : Bool} {m : List Char → Option α} (hm : StopsAt '\'' m) {first : List Char}
    {rest : List (List Char × List Char)} (hf : firstFrom atWord m false first = none)
    (hr : ∀ r ∈ rest, firstFrom atWord m false r.2 = none) :
    firstFrom atWord m false (framed first rest) = rest.findSome? fun r => firstFrom atWord m false r.1 := by
  have hw : isWord '\'' = false := by decide
  induction rest generalizing first with
  | nil => exact hf
  | cons r rest ih =>
    have ih := ih (hr r (by simp)) fun r' hr' => hr r' (by simp [hr'])
    rw [framed, hm.firstFrom_append, hf, Option.none_or, hw, hm.firstFrom_append, hw, ih, List.findSome?_cons]
    cases firstFrom atWord m false r.1 <;> rfl

def lastPiece : List Char → List (List Char × List Char) → List Char
  | first, [] => first
  | _, (_, next) :: rest => lastPiece next rest

theorem framed_getLast? {first : List Char} {rest : List (List Char × List Char)} {c : Char}
    (h : (lastPiece first rest).getLast? = some c) : (framed first rest).getLast? = some c := by
  induction rest generalizing first with
  | nil => exact h
  | cons r rest ih =>
    have ih := ih h
    simp [framed, List.getLast?_append, List.getLast?_cons, ih]

theorem framed_head? {first : List Char} {rest : List (List Char × List Char)} {c : Char}
    (h : first.head? = some c) : (framed first rest).head? = some c := by
  cases rest with
  | nil => exact h
  | cons r rest => rw [framed, List.head?_append, h, Option.some_or]

/-! ## Numbers of a line -/

def retryAt? (cs : List Char) : Option (List Char) :=
  match after? "retries_step".toList cs with
  | none => none
  | some rest =>
    match skipBlanks (rest.dropWhile isWord) with
    | '=' :: rest =>
      let digits := (leadingDigits (skipBlanks rest)).1
      if digits.isEmpty then none else some digits
    | _ => none

theorem retryDigits?_eq (line : List Char) : retryDigits? line = firstFrom true retryAt? false line := rfl

theorem leadingDigits_cut {q : Char} (hb : isBlank q = false) (hd : isDigit q = false) (before rest : List Char) :
    (leadingDigits (skipBlanks (before ++ q :: rest))).1 = (leadingDigits (skipBlanks before)).1 := by
  rw [skipBlanks, dropWhile_append_stop hb, leadingDigits, takeWhile_append_stop hd]
  rfl

theorem retryAt?_stopsAt {q : Char} (hl : q ∉ "retries_step=".toList) (hw : isWord q = false) (hb : isBlank q = false)
    (hd : isDigit q = false) : StopsAt q retryAt? where
  nil := rfl
  cut := fun before rest => by
    have hname : q ∉ "retries_step".toList := fun h => hl (List.mem_append_left ['='] h)
    have hsign : q ≠ '=' := fun h => hl (by rw [h]; decide)
    unfold retryAt?
    rw [after?_cut hname]
    cases ha : after? "retries_step".toList before with
    | none => rfl
    | some r =>
      simp only [Option.map_some]
      rw [dropWhile_append_stop hw, skipBlanks, dropWhile_append_stop hb]
      cases hr : (r.dropWhile isWord).dropWhile isBlank with
      | nil =>
        simp only [skipBlanks, hr, List.nil_append]
        split
        · next h => exact absurd (List.cons.inj h).1 hsign
        · rfl
      | cons c cs =>
        simp only [skipBlanks, hr, List.cons_append]
        by_cases hc : c = '='
        · subst hc
          simp only [← skipBlanks.eq_def, leadingDigits_cut hb hd]
        · split
          · next h => exact absurd (List.cons.inj h).1 hc
          · split
            · next h => exact absurd (List.cons.inj h).1 hc
            · rfl

def timeAt? (cs : List Char) : Option (List Char) :=
  (afterAny? (["page.waitForTimeout(", "page.wait_for_timeout("].map String.toList) cs).map fun cs =>
    (leadingDigits (skipBlanks cs)).1

def timeDigits? (line : List Char) : Option (List Char) := firstFrom true timeAt? false line

theorem timeAt?_stopsAt : StopsAt '\'' timeAt? :=
  StopsAt.afterAny (by decide) (leadingDigits_cut (by decide) (by decide))

/-! ## Characters that a line lacks -/

theorem opening?_missing {i : Idiom} (hi : i ∈ idioms) {line : List Char} (h : '.' ∉ line) : i.opening? line = none := by
  have hdot : ∀ i ∈ idioms, ∀ lit ∈ i.calls.map String.toList, '.' ∈ lit := by decide
  refine firstFrom_missing (fun s a hs => ?_) h
  obtain ⟨lit, hl, rfl⟩ := afterAny?_some hs
  exact List.mem_append_left a (hdot i hi lit hl)

theorem timeDigits?_missing {line : List Char} (h : '.' ∉ line) : timeDigits? line = none := by
  rw [timeDigits?]
  unfold timeAt?
  rw [firstFrom_map, Option.map_eq_none_iff]
  exact opening?_missing (i := ⟨["page.waitForTimeout(", "page.wait_for_timeout("], true, _⟩) (List.mem_of_getElem? (i := 3) rfl) h

theorem contains_missing {lit line : List Char} {c : Char} (hl : c ∈ lit) (h : c ∉ line) : contains lit line = false := by
  have hn : firstAt (after? lit) line = none := firstFrom_missing (fun s a hs => by simp [after?_some hs, hl]) h
  rw [contains, hn, Option.isSome_none]

theorem hasWarning_missing {line : List Char} (h : '.' ∉ line) : hasWarning line = false := by
  have hall : ∀ call ∈ ["console.warn(", "logger.warning(", "logging.warning("], '.' ∈ call.toList := by decide
  rw [hasWarning, List.any_eq_false]
  intro call hc
  rw [contains_missing (hall call hc) h]
  exact Bool.false_ne_true

theorem hasPageCall_missing {line : List Char} (h : '.' ∉ line) : hasPageCall line = false := by
  rw [hasPageCall, Option.isSome_eq_false_iff, Option.isNone_iff_eq_none]
  refine firstFrom_missing (fun s a hs => ?_) h
  cases ha : after? "page.".toList s with
  | none =>
    rw [ha] at hs
    cases hs
  | some rest =>
    rw [after?_some ha]
    exact List.mem_append_left rest (by decide)

theorem retryAt?_sign {cs digits : List Char} (h : retryAt? cs = some digits) : '=' ∈ cs := by
  unfold retryAt? at h
  split at h
  · cases h
  · next rest ha =>
    split at h
    · next more hr =>
      have hs : '=' :: more <:+ rest := hr ▸ (skipBlanks_suffix _).trans (List.dropWhile_suffix isWord)
      rw [after?_some ha]
      exact List.mem_append_right _ (hs.subset (List.mem_cons_self ..))
    · cases h

theorem retryDigits?_missing {line : List Char} (h : '=' ∉ line) : retryDigits? line = none :=
  firstFrom_missing (fun _ _ hs => retryAt?_sign hs) h

/-! ## The calls as pieces and texts -/

/-- A piece without a number, a warning and a call that counts before the one
at place `k`. -/
structure Quiet (k : Nat) (piece : List Char) : Prop where
  later : ∀ j ∈ idioms.drop (k + 1), j.opening? piece = none
  time : k ≠ 3 → timeDigits? piece = none
  retry : retryDigits? piece = none
  warning : hasWarning piece = false

theorem Quiet.of_missing {k : Nat} {piece : List Char} (h : '.' ∉ piece) (hs : '=' ∉ piece) : Quiet k piece where
  later := fun _ hj => opening?_missing (List.mem_of_mem_drop hj) h
  time := fun _ => timeDigits?_missing h
  retry := retryDigits?_missing hs
  warning := hasWarning_missing h

/-- The line of a call cut at its quotes. -/
structure Framing (a : Action) (first : List Char) (rest : List (List Char × List Char)) : Prop where
  line : (callOf a).toList = framed first rest
  texts : ∀ r ∈ rest, ∃ x ∈ a.texts, r.1 = x.toList
  value : ∀ f : List Char → Option (List Char), f [] = none →
    rest.findSome? (fun r => f r.1) = a.texts.findSome? fun x => f x.toList
  head : Quiet a.place first
  next : ∀ r ∈ rest, Quiet a.place r.2
  skip : rest ≠ [] → hasSkip first = false ∧ ∀ r ∈ rest, hasSkip r.2 = false
  starts : first.head? = some 'a' ∨ first.head? = some 'c'
  ends : (lastPiece first rest).getLast? = some ';'

theorem Framing.single {a : Action} {x : String} {first next : List Char} (ht : a.texts = [x])
    (hl : (callOf a).toList = framed first [(x.toList, next)]) (hf : Quiet a.place first) (hn : Quiet a.place next)
    (hs : hasSkip first = false ∧ hasSkip next = false) (hb : first.head? = some 'a' ∨ first.head? = some 'c')
    (he : next.getLast? = some ';') : Framing a first [(x.toList, next)] where
  line := hl
  texts := by simp [ht]
  value := fun f _ => by simp [ht]
  head := hf
  next := by simpa using hn
  skip := fun _ => by simpa using hs
  starts := hb
  ends := he

theorem Framing.bare {a : Action} {line : List Char} (ht : ∀ x ∈ a.texts, x = "") (hl : (callOf a).toList = line)
    (hf : Quiet a.place line) (hb : line.head? = some 'a' ∨ line.head? = some 'c') (he : line.getLast? = some ';') :
    Framing a line [] where
  line := hl
  texts := by simp
  value := fun f hn => by
    symm
    rw [List.findSome?_nil, List.findSome?_eq_none_iff]
    intro x hx
    rw [ht x hx]
    exact hn
  head := hf
  next := by simp
  skip := fun h => absurd rfl h
  starts := hb
  ends := he

theorem not_mem_digits {c : Char} {n : Nat} {tail : List Char} (hc : c.isDigit = false) (ht : c ∉ tail) :
    c ∉ Nat.toDigits 10 n ++ tail := by
  intro h
  rcases List.mem_append.mp h with h | h
  · rw [isDigit_toDigits h] at hc
    cases hc
  · exact ht h

theorem quiet_waitForTimeout (ms : Nat) : Quiet 3 ("await page.waitForTimeout(".toList ++ (Nat.toDigits 10 ms ++ ");".toList)) := by
  generalize hd : Nat.toDigits 10 ms ++ ");".toList = tail
  have hdot : '.' ∉ tail := hd ▸ not_mem_digits (by decide) (by decide)
  have hsign : '=' ∉ tail := hd ▸ not_mem_digits (by decide) (by decide)
  constructor
  · intro j hj
    have hskip : j.opening? ("await page.waitForTimeout(".toList ++ tail) = j.opening? tail := by
      simp only [idioms, List.drop_succ_cons, List.drop_zero, List.mem_cons, List.not_mem_nil, or_false] at hj
      rcases hj with rfl | rfl | rfl | rfl <;> rfl
    rw [hskip, opening?_missing (List.mem_of_mem_drop hj) hdot]
  · exact fun h => absurd rfl h
  · have hskip : retryDigits? ("await page.waitForTimeout(".toList ++ tail) = retryDigits? tail := rfl
    rw [hskip, retryDigits?_missing hsign]
  · have hskip : hasWarning ("await page.waitForTimeout(".toList ++ tail) = hasWarning tail := rfl
    rw [hskip, hasWarning_missing hdot]

theorem quiet_scrollTo (n : Nat) :
    Quiet 7 ("await page.evaluate(() => window.scrollTo(0, ".toList ++ (Nat.toDigits 10 n ++ "));".toList)) := by
  generalize hd : Nat.toDigits 10 n ++ "));".toList = tail
  have hdot : '.' ∉ tail := hd ▸ not_mem_digits (by decide) (by decide)
  have hsign : '=' ∉ tail := hd ▸ not_mem_digits (by decide) (by decide)
  constructor
  · intro j hj
    cases hj
  · intro _
    have hskip : timeDigits? ("await page.evaluate(() => window.scrollTo(0, ".toList ++ tail) = timeDigits? tail := rfl
    rw [hskip, timeDigits?_missing hdot]
  · have hskip : retryDigits? ("await page.evaluate(() => window.scrollTo(0, ".toList ++ tail) = retryDigits? tail := rfl
    rw [hskip, retryDigits?_missing hsign]
  · have hskip : hasWarning ("await page.evaluate(() => window.scrollTo(0, ".toList ++ tail) = hasWarning tail := rfl
    rw [hskip, hasWarning_missing hdot]

/-! ## The line of a call -/

theorem append_framed {opening closing : String} {first next : List Char} (x : String)
    (ho : opening.toList = first ++ ['\'']) (hc : closing.toList = '\'' :: next) :
    (opening ++ x ++ closing).toList = framed first [(x.toList, next)] := by
  rw [String.toList_append, String.toList_append, ho, hc]
  simp [framed]

theorem append_digits (opening closing : String) (n : Nat) :
    (opening ++ toString n ++ closing).toList = opening.toList ++ (Nat.toDigits 10 n ++ closing.toList) := by
  rw [String.toList_append, String.toList_append, List.append_assoc, Nat.toString_eq_repr, Nat.toList_repr]

theorem callOf_navigate (url : String) :
    (callOf (.navigate url)).toList = framed "await page.goto(".toList [(url.toList, ");".toList)] :=
  append_framed url rfl rfl

theorem callOf_click (selector : String) :
    (callOf (.click selector)).toList = framed "await page.click(".toList [(selector.toList, ");".toList)] :=
  append_framed selector rfl rfl

theorem callOf_type (selector text : String) :
    (callOf (.type selector text)).toList =
      framed "await page.fill(".toList [(selector.toList, ", ".toList), (text.toList, ");".toList)] := by
  show ("await page.fill('" ++ selector ++ "', '" ++ text ++ "');").toList = _
  have hf : "await page.fill('".toList = "await page.fill(".toList ++ ['\''] := rfl
  have hn : "', '".toList = '\'' :: (", ".toList ++ ['\'']) := rfl
  have he : "');".toList = '\'' :: ");".toList := rfl
  simp only [String.toList_append, hf, hn, he, framed, List.append_assoc, List.cons_append, List.nil_append]

theorem callOf_waitForTimeout (ms : Nat) (selector : String) :
    (callOf (.wait .time ms selector)).toList =
      "await page.waitForTimeout(".toList ++ (Nat.toDigits 10 ms ++ ");".toList) :=
  append_digits _ _ ms

theorem callOf_waitForSelector (ms : Nat) (selector : String) :
    (callOf (.wait .selector ms selector)).toList =
      framed "await page.waitForSelector(".toList [(selector.toList, ");".toList)] :=
  append_framed selector rfl rfl

theorem callOf_extract (selector : String) :
    (callOf (.extract selector)).toList =
      framed "const data = await page.$$eval(".toList
        [(selector.toList, ", els => els.map(el => el.textContent));".toList)] :=
  append_framed selector rfl rfl

theorem callOf_scrollTo (n : Nat) (direction : ScrollDirection) :
    (callOf (.scroll (.pixels n) direction)).toList =
      "await page.evaluate(() => window.scrollTo(0, ".toList ++ (Nat.toDigits 10 n ++ "));".toList) :=
  append_digits _ _ n

theorem callOf_scrollToEnd (direction : ScrollDirection) :
    (callOf (.scroll .bottom direction)).toList =
      "await page.evaluate(() => window.scrollTo(0, document.body.scrollHeight));".toList := rfl

theorem digits_getLast? (opening tail : List Char) (n : Nat) {c : Char} (h : tail.getLast? = some c) :
    (opening ++ (Nat.toDigits 10 n ++ tail)).getLast? = some c := by
  simp [List.getLast?_append, h]

/-- Every call is made of fixed pieces and of its texts. -/
theorem callOf_framing {a : Action} (hw : IsWritten a) : ∃ first rest, Framing a first rest := by
  have hend (k : Nat) : Quiet k ");".toList := Quiet.of_missing (by decide) (by decide)
  cases a with
  | navigate url =>
    have hf : Quiet 0 "await page.goto(".toList := by constructor <;> decide
    exact ⟨_, _, Framing.single rfl (callOf_navigate url) hf (hend 0) (by decide) (.inl rfl) rfl⟩
  | click selector =>
    have hf : Quiet 1 "await page.click(".toList := by constructor <;> decide
    exact ⟨_, _, Framing.single rfl (callOf_click selector) hf (hend 1) (by decide) (.inl rfl) rfl⟩
  | type selector text =>
    have hf : Quiet 2 "await page.fill(".toList := by constructor <;> decide
    have hn : Quiet 2 ", ".toList := Quiet.of_missing (by decide) (by decide)
    refine ⟨_, _, callOf_type selector text, ?_, fun _ _ => rfl, hf, ?_, fun _ => ⟨by decide, ?_⟩, .inl rfl, rfl⟩
    · simp [Action.texts]
    · simpa using ⟨hn, hend 2⟩
    · have hs : hasSkip ", ".toList = false ∧ hasSkip ");".toList = false := by decide
      simpa using hs
  | wait mode ms selector =>
    cases mode with
    | time =>
      refine ⟨_, _, Framing.bare ?_ (callOf_waitForTimeout ms selector) (quiet_waitForTimeout ms) (.inl rfl)
        (digits_getLast? _ _ ms rfl)⟩
      simpa [Action.texts] using hw.2
    | selector =>
      have hf : Quiet 4 "await page.waitForSelector(".toList := by constructor <;> decide
      exact ⟨_, _, Framing.single rfl (callOf_waitForSelector ms selector) hf (hend 4) (by decide) (.inl rfl) rfl⟩
  | extract selector =>
    have hf : Quiet 5 "const data = await page.$$eval(".toList := by constructor <;> decide
    have hn : Quiet 5 ", els => els.map(el => el.textContent));".toList := by constructor <;> decide
    exact ⟨_, _, Framing.single rfl (callOf_extract selector) hf hn (by decide) (.inr rfl) rfl⟩
  | screenshot fullPage =>
    have hf : ∀ b, Quiet 6 (callOf (.screenshot b)).toList := by
      intro b
      cases b <;> constructor <;> decide
    cases fullPage with
    | true => exact ⟨_, _, Framing.bare (by simp [Action.texts]) rfl (hf true) (.inl rfl) rfl⟩
    | false => exact ⟨_, _, Framing.bare (by simp [Action.texts]) rfl (hf false) (.inl rfl) rfl⟩
  | scroll target direction =>
    cases target with
    | bottom =>
      have hf : Quiet 7 "await page.evaluate(() => window.scrollTo(0, document.body.scrollHeight));".toList := by
        constructor <;> decide
      exact ⟨_, _, Framing.bare (by simp [Action.texts]) (callOf_scrollToEnd direction) hf (.inl rfl) rfl⟩
    | pixels n =>
      exact ⟨_, _, Framing.bare (by simp [Action.texts]) (callOf_scrollTo n direction) (quiet_scrollTo n) (.inl rfl)
        (digits_getLast? _ _ n rfl)⟩

/-! ## What the line of a call says -/

/-- The digits the texts of an action bring into the line of its call: those of
the first assignment to a retry counter and of the first call that waits for
some time. -/
def hiddenRetries (a : Action) : Option (List Char) := a.texts.findSome? fun x => retryDigits? x.toList

def hiddenTime (a : Action) : Option (List Char) := a.texts.findSome? fun x => timeDigits? x.toList

section
variable {a : Action} {p : ErrorPolicy}

theorem Recorded.opening?_later (h : Recorded a p) : ∀ j ∈ laterCalls a, j.opening? (callOf a).toList = none := by
  intro j hj
  obtain ⟨first, rest, hf⟩ := callOf_framing h.written
  rw [← Option.isNone_iff_eq_none, ← Option.isSome_eq_false_iff, hf.line,
    framed_mark (opening?_cutsAt (List.mem_of_mem_drop hj) '\'' (by decide)), hf.head.later j hj, Option.isSome_none,
    Bool.false_or, List.any_eq_false]
  intro r hr
  obtain ⟨x, hx, he⟩ := hf.texts r hr
  rw [he, h.last x hx j hj, (hf.next r hr).later j hj]
  exact Bool.false_ne_true

theorem retryDigits?_callOf (h : IsWritten a) : retryDigits? (callOf a).toList = hiddenRetries a := by
  obtain ⟨first, rest, hf⟩ := callOf_framing h
  have hstop : StopsAt '\'' retryAt? := retryAt?_stopsAt (by decide) (by decide) (by decide) (by decide)
  rw [hf.line, retryDigits?_eq, framed_first hstop hf.head.retry fun r hr => (hf.next r hr).retry]
  exact hf.value retryDigits? rfl

theorem timeDigits?_callOf (h : IsWritten a) (hp : a.place ≠ 3) : timeDigits? (callOf a).toList = hiddenTime a := by
  obtain ⟨first, rest, hf⟩ := callOf_framing h
  rw [hf.line, timeDigits?, framed_first timeAt?_stopsAt (hf.head.time hp) fun r hr => (hf.next r hr).time hp]
  exact hf.value timeDigits? rfl

theorem Recorded.skipsErrors_callOf (h : Recorded a p) (hs : skipsErrors (callOf a).toList = true) : p.ignoresErrors = true := by
  obtain ⟨first, rest, hf⟩ := callOf_framing h.written
  rw [skipsErrors_eq, Bool.and_eq_true, hf.line, framed_mark (hasWarning_cutsAt '\'' (by decide)),
    framed_mark (hasSkip_cutsAt '\'' (by decide)), hf.head.warning, Bool.false_or, List.any_eq_true] at hs
  -- both marks stand in the texts, though maybe not in the same one
  obtain ⟨⟨r, hr, hw⟩, hm⟩ := hs
  obtain ⟨hfirst, hnext⟩ := hf.skip (List.ne_nil_of_mem hr)
  rw [(hf.next r hr).warning, Bool.or_false] at hw
  rw [hfirst, Bool.false_or, List.any_eq_true] at hm
  obtain ⟨r', hr', hm⟩ := hm
  rw [hnext r' hr', Bool.or_false] at hm
  obtain ⟨x, hx, he⟩ := hf.texts r hr
  obtain ⟨y, hy, he'⟩ := hf.texts r' hr'
  exact h.marked ⟨x, hx, he ▸ hw⟩ ⟨y, hy, he' ▸ hm⟩

end

/-! ## The action of a call -/

theorem firstLiteral_quote {text : List Char} (h : ∀ c ∈ text, isQuote c = false) (rest : List Char) :
    firstLiteral ('\'' :: (text ++ '\'' :: rest)) = (text, rest) := by
  have hb : skipBlanks ('\'' :: (text ++ '\'' :: rest)) = '\'' :: (text ++ '\'' :: rest) :=
    List.dropWhile_cons_of_neg (by decide)
  rw [firstLiteral, hb, quoted?_append h]

theorem literal_quote {x : String} (h : ∀ c ∈ x.toList, isQuote c = false) (rest : List Char) :
    literal ('\'' :: (x.toList ++ '\'' :: rest)) = x := by
  rw [literal, firstLiteral_quote h, String.ofList_toList]

theorem nextLiteral_quote {text : List Char} (h : ∀ c ∈ text, isQuote c = false) (rest : List Char) :
    nextLiteral (", '".toList ++ (text ++ '\'' :: rest)) = text := by
  have hc : skipBlanks (", '".toList ++ (text ++ '\'' :: rest)) = ',' :: (" '".toList ++ (text ++ '\'' :: rest)) :=
    List.dropWhile_cons_of_neg (by decide)
  have hb : skipBlanks (" '".toList ++ (text ++ '\'' :: rest)) = '\'' :: (text ++ '\'' :: rest) := rfl
  unfold nextLiteral
  simp only [hc, hb, quoted?_append h]

theorem number_toDigits {n : Nat} (h : n < 10 ^ digitLimit) : number (Nat.toDigits 10 n) = .ok n := by
  have hl : (Nat.toDigits 10 n).length ≤ digitLimit := (Nat.length_toDigits_le_iff (by decide) (by decide)).mpr h
  rw [number, if_neg (by omega), readNat_toDigits]

theorem leadingDigits_toDigits (n : Nat) {c : Char} (hc : isDigit c = false) (rest : List Char) :
    (leadingDigits (skipBlanks (Nat.toDigits 10 n ++ c :: rest))).1 = Nat.toDigits 10 n := by
  have hd : ∀ x ∈ Nat.toDigits 10 n, isDigit x = true := fun x hx => by
    rw [isDigit, digitValue?_ascii (isDigit_toDigits hx), Option.isSome_some]
  have hb : skipBlanks (Nat.toDigits 10 n ++ c :: rest) = Nat.toDigits 10 n ++ c :: rest := by
    cases hn : Nat.toDigits 10 n with
    | nil => exact absurd hn Nat.toDigits_ne_nil
    | cons x xs =>
      have hx : isBlank x = false := not_isBlank_of_isDigit (isDigit_toDigits (n := n) (by simp [hn]))
      exact List.dropWhile_cons_of_neg (by simp [hx])
  rw [hb, leadingDigits, List.takeWhile_append_of_pos hd, List.takeWhile_cons_of_neg (by simp [hc]), List.append_nil]

theorem scrollTarget_toDigits {n : Nat} (h : n < 10 ^ digitLimit) :
    scrollTarget ("0, ".toList ++ (Nat.toDigits 10 n ++ "));".toList)) = .ok (.pixels n) := by
  have hd : (leadingDigits (skipBlanks (' ' :: (Nat.toDigits 10 n ++ "));".toList)))).1 = Nat.toDigits 10 n :=
    leadingDigits_toDigits n (c := ')') (by decide) [')', ';']
  have he : scrollTarget ("0, ".toList ++ (Nat.toDigits 10 n ++ "));".toList)) =
      if (leadingDigits (skipBlanks (' ' :: (Nat.toDigits 10 n ++ "));".toList)))).1.isEmpty then Except.ok ScrollTarget.bottom
      else (number (leadingDigits (skipBlanks (' ' :: (Nat.toDigits 10 n ++ "));".toList)))).1).map ScrollTarget.pixels := rfl
  rw [he, hd, number_toDigits h]
  simp [Nat.toDigits_ne_nil, Except.map]

theorem callOf_action {a : Action} {p : ErrorPolicy} (h : Recorded a p) :
    ∃ i, idioms[a.place]? = some i ∧ i.find? (callOf a).toList = some (.ok a) := by
  have hq : ∀ x ∈ a.texts, ∀ c ∈ x.toList, isQuote c = false := fun x hx c hc => (h.plain x hx c hc).1
  have hw := h.written
  -- each `show` says what the idiom makes of the characters behind its opening bracket
  cases a with
  | navigate url =>
    refine ⟨_, rfl, ?_⟩
    rw [callOf_navigate]
    show some (Except.ok (Action.navigate (literal ('\'' :: (url.toList ++ '\'' :: ");".toList))))) = _
    rw [literal_quote (hq url (by simp [Action.texts]))]
  | click selector =>
    refine ⟨_, rfl, ?_⟩
    rw [callOf_click]
    show some (Except.ok (Action.click (literal ('\'' :: (selector.toList ++ '\'' :: ");".toList))))) = _
    rw [literal_quote (hq selector (by simp [Action.texts]))]
  | type selector text =>
    have hs := hq selector (by simp [Action.texts])
    have ht := hq text (by simp [Action.texts])
    have hl := firstLiteral_quote hs (", '".toList ++ (text.toList ++ '\'' :: ");".toList))
    have hn := nextLiteral_quote ht ");".toList
    refine ⟨_, rfl, ?_⟩
    rw [callOf_type]
    let found := firstLiteral ('\'' :: (selector.toList ++ '\'' :: (", '".toList ++ (text.toList ++ '\'' :: ");".toList))))
    show some (Except.ok (Action.type (String.ofList found.1) (String.ofList (nextLiteral found.2)))) = _
    rw [show found = _ from hl]
    simp only [hn, String.ofList_toList]
  | wait mode ms selector =>
    cases mode with
    | time =>
      obtain ⟨hms, rfl⟩ := hw
      have hd := leadingDigits_toDigits ms (c := ')') (by decide) [';']
      refine ⟨_, rfl, ?_⟩
      rw [callOf_waitForTimeout]
      show some ((number (leadingDigits (skipBlanks (Nat.toDigits 10 ms ++ ");".toList))).1).map fun ms => Action.wait .time ms "") = _
      rw [show (leadingDigits (skipBlanks (Nat.toDigits 10 ms ++ ");".toList))).1 = _ from hd, number_toDigits hms]
      rfl
    | selector =>
      cases hw
      refine ⟨_, rfl, ?_⟩
      rw [callOf_waitForSelector]
      show some (Except.ok (Action.wait .selector 0 (literal ('\'' :: (selector.toList ++ '\'' :: ");".toList))))) = _
      rw [literal_quote (hq selector (by simp [Action.texts]))]
  | extract selector =>
    refine ⟨_, rfl, ?_⟩
    rw [callOf_extract]
    show some (Except.ok (Action.extract (literal ('\'' :: (selector.toList ++ '\'' :: ", els => els.map(el => el.textContent));".toList))))) = _
    rw [literal_quote (hq selector (by simp [Action.texts]))]
  | screenshot fullPage =>
    refine ⟨_, rfl, ?_⟩
    cases fullPage <;> rfl
  | scroll target direction =>
    obtain ⟨ht, rfl⟩ := hw
    refine ⟨_, rfl, ?_⟩
    cases target with
    | bottom => rfl
    | pixels n =>
      rw [callOf_scrollTo]
      show some ((scrollTarget ("0, ".toList ++ (Nat.toDigits 10 n ++ "));".toList))).map fun t => Action.scroll t .down) = _
      rw [scrollTarget_toDigits (ht n rfl)]
      rfl

/-! ## Reading the call -/

theorem findAction_none {line : List Char} {l : List Idiom} (h : ∀ j ∈ l, j.find? line = none) (found : Option Action) :
    findAction line l found = .ok found := by
  induction l with
  | nil => rfl
  | cons j rest ih =>
    rw [findAction, h j (by simp)]
    exact ih fun j' hj' => h j' (by simp [hj'])

/-- The search comes to an idiom if none before it fails. What these find is
given up for what a later one finds. -/
theorem findAction_reaches {line : List Char} {l : List Idiom} {k : Nat} {i : Idiom} (found : Option Action)
    (hk : l[k]? = some i) (hb : ∀ j ∈ l.take k, ∀ e, j.find? line ≠ some (.error e)) :
    ∃ found', findAction line l found = findAction line (i :: l.drop (k + 1)) found' := by
  induction l generalizing k found with
  | nil => cases hk
  | cons j rest ih =>
    cases k with
    | zero =>
      cases hk
      exact ⟨found, rfl⟩
    | succ k =>
      have ih (found) := ih found hk fun j' hj' => hb j' (by simp [hj'])
      rw [findAction]
      cases hj : j.find? line with
      | none => exact ih found
      | some r =>
        cases r with
        | ok b => exact ih (some b)
        | error e => exact absurd hj (hb j (by simp) e)

theorem findAction_ok {line : List Char} {l : List Idiom} {k : Nat} {i : Idiom} {a : Action} (found : Option Action)
    (hk : l[k]? = some i) (hb : ∀ j ∈ l.take k, ∀ e, j.find? line ≠ some (.error e)) (hi : i.find? line = some (.ok a))
    (ha : ∀ j ∈ l.drop (k + 1), j.find? line = none) : findAction line l found = .ok (some a) := by
  obtain ⟨found', hreach⟩ := findAction_reaches found hk hb
  rw [hreach, findAction, hi]
  exact findAction_none ha (some a)

theorem findAction_error {line : List Char} {l : List Idiom} {k : Nat} {i : Idiom} {e : NumberTooLong} (found : Option Action)
    (hk : l[k]? = some i) (hb : ∀ j ∈ l.take k, ∀ e, j.find? line ≠ some (.error e))
    (hi : i.find? line = some (.error e)) : findAction line l found = .error e := by
  obtain ⟨found', hreach⟩ := findAction_reaches found hk hb
  rw [hreach, findAction, hi]

def timeIdiom : Idiom where
  calls := ["page.waitForTimeout(", "page.wait_for_timeout("]
  action := fun _ cs => (number (leadingDigits (skipBlanks cs)).1).map fun ms => .wait .time ms ""

theorem timeIdiom_find? (line : List Char) :
    timeIdiom.find? line = (timeDigits? line).map fun digits => (number digits).map fun ms => .wait .time ms "" := by
  rw [timeDigits?]
  unfold timeAt?
  rw [firstFrom_map, Option.map_map]
  rfl

theorem number_long {digits : List Char} (h : digitLimit < digits.length) : number digits = .error ⟨digits.length⟩ := by
  rw [number, if_pos h]

theorem number_short {digits : List Char} (h : digits.length ≤ digitLimit) : number digits = .ok (readNat digits) := by
  rw [number, if_neg (by omega)]

/-- Above a scroll only a wait can have a number that is too long. -/
theorem find?_error {line : List Char} {j : Idiom} {e : NumberTooLong} (hj : j ∈ idioms.take 7)
    (he : j.find? line = some (.error e)) :
    j = timeIdiom ∧ ∃ digits, timeDigits? line = some digits ∧ digitLimit < digits.length := by
  have hall : ∀ j ∈ idioms.take 7, ∀ line cs, j.action line cs = .error e → j = timeIdiom := by
    simp only [idioms, List.take_succ_cons, List.take_zero, List.mem_cons, List.not_mem_nil, or_false]
    rintro j (rfl | rfl | rfl | rfl | rfl | rfl | rfl) line cs h
    · cases h
    · cases h
    · cases h
    · rfl
    · cases h
    · cases h
    · cases h
  have hfind := he
  rw [Idiom.find?_eq, Option.map_eq_some_iff] at he
  obtain ⟨cs, _, ha⟩ := he
  obtain rfl := hall j hj line cs ha
  rw [timeIdiom_find?, Option.map_eq_some_iff] at hfind
  obtain ⟨digits, hd, hn⟩ := hfind
  refine ⟨rfl, digits, hd, ?_⟩
  rcases Nat.lt_or_ge digitLimit digits.length with hl | hl
  · exact hl
  · rw [number_short hl] at hn
    cases hn

theorem find?_ne_error {k : Nat} (hk : k ≤ 7) {line : List Char}
    (ht : 3 < k → ∀ digits, timeDigits? line = some digits → digits.length ≤ digitLimit) :
    ∀ j ∈ idioms.take k, ∀ e, j.find? line ≠ some (.error e) := by
  intro j hj e he
  obtain ⟨rfl, digits, hd, hl⟩ := find?_error (List.take_subset_take_left idioms hk hj) he
  by_cases h3 : 3 < k
  · have := ht h3 digits hd
    omega
  · have hcalls : ∀ j ∈ idioms.take 3, j.calls ≠ timeIdiom.calls := by decide
    exact hcalls timeIdiom (List.take_subset_take_left idioms (by omega) hj) rfl

theorem Action.place_le (a : Action) : a.place ≤ 7 := by
  cases a with
  | wait mode ms selector => cases mode <;> simp [Action.place]
  | _ => simp [Action.place]

section
variable {a : Action} {p : ErrorPolicy}

theorem Recorded.hiddenTime_none (h : Recorded a p) (hp : a.place ≤ 3) : hiddenTime a = none := by
  rw [hiddenTime, List.findSome?_eq_none_iff]
  intro x hx
  by_cases h3 : a.place = 3
  · have hw := h.written
    cases a with
    | wait mode ms selector =>
      cases mode with
      | time =>
        rw [List.mem_singleton.mp hx, hw.2]
        rfl
      | selector => cases h3
    | scroll _ _ | screenshot _ => cases hx
    | _ => cases h3
  · -- a call that waits for some time would have won over the action
    have hmem : timeIdiom ∈ laterCalls a :=
      List.drop_subset_drop_left idioms (by omega : a.place + 1 ≤ 3) (List.mem_of_getElem? (i := 0) rfl)
    have hn := h.last x hx timeIdiom hmem
    rw [timeDigits?]
    unfold timeAt?
    rw [firstFrom_map, Option.map_eq_none_iff]
    exact hn

theorem findAction_callOf (h : Recorded a p) (ht : ∀ digits, hiddenTime a = some digits → digits.length ≤ digitLimit) :
    findAction (callOf a).toList idioms none = .ok (some a) := by
  obtain ⟨i, hk, hi⟩ := callOf_action h
  have hb : ∀ j ∈ idioms.take a.place, ∀ e, j.find? (callOf a).toList ≠ some (.error e) :=
    find?_ne_error (Action.place_le a) fun h3 digits hd => ht digits (by rw [← timeDigits?_callOf h.written (by omega), hd])
  exact findAction_ok none hk hb hi fun j hj => Idiom.find?_eq_none.mpr (h.opening?_later j hj)

theorem findAction_callOf_error (h : Recorded a p) {digits : List Char} (ht : hiddenTime a = some digits)
    (hl : digitLimit < digits.length) : findAction (callOf a).toList idioms none = .error ⟨digits.length⟩ := by
  have hplace : 3 < a.place := by
    rcases Nat.lt_or_ge 3 a.place with hp | hp
    · exact hp
    · rw [h.hiddenTime_none hp] at ht
      cases ht
  have hd : timeDigits? (callOf a).toList = some digits := by rw [timeDigits?_callOf h.written (by omega), ht]
  refine findAction_error (i := timeIdiom) none (k := 3) rfl (find?_ne_error (by omega) fun h3 => by omega) ?_
  rw [timeIdiom_find?, hd, Option.map_some, number_long hl]
  rfl

end

end BrowserPilot.Script
