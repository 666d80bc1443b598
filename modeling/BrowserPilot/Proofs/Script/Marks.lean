import BrowserPilot.Proofs.Script.Calls
import BrowserPilot.Proofs.Text.Place

/-!
# What stands in a line

Calls, assignments and marks of a line, said by the text of the line alone:
what stands before them, how they are spelled and what follows. The searches of
the compiler find the first of each.
-/

namespace BrowserPilot.Script

open Text

def StartsWord (before : List Char) : Prop := ∀ c, before.getLast? = some c → isWord c = false

theorem isPlace_iff {atWord : Bool} {before : List Char} :
    IsPlace atWord false before ↔ (atWord = true → StartsWord before) := by
  unfold IsPlace endsInWord StartsWord
  cases atWord <;> cases before.getLast? <;> simp

theorem StartsWord.of_suffix {before more : List Char} (h : StartsWord before) (hs : more <:+ before) : StartsWord more := by
  obtain ⟨first, rfl⟩ := hs
  intro c hc
  apply h
  rw [List.getLast?_append, hc, Option.some_or]

/-! ## Calls -/

/-- A call of an idiom in a line, between what stands before it and what
follows its bracket. -/
structure Idiom.IsCalledAt (i : Idiom) (line before rest : List Char) : Prop where
  call : ∃ call ∈ i.calls, line = before ++ (call.toList ++ rest)
  word : i.atWord = true → StartsWord before

def Idiom.IsCalled (i : Idiom) (line : List Char) : Prop := ∃ before rest, i.IsCalledAt line before rest

structure Idiom.IsFirstCall (i : Idiom) (line before rest : List Char) : Prop where
  call : i.IsCalledAt line before rest
  first : ∀ before' rest', i.IsCalledAt line before' rest' → before.length ≤ before'.length

theorem idioms_apart : ∀ i ∈ idioms, Apart (i.calls.map String.toList) := by
  unfold Apart
  decide

section
variable {i : Idiom} {line before rest : List Char}

theorem isCalledAt_iff (hi : i ∈ idioms) : i.IsCalledAt line before rest ↔
    ∃ cs, line = before ++ cs ∧ IsPlace i.atWord false before ∧ afterAny? (i.calls.map String.toList) cs = some rest := by
  constructor
  · rintro ⟨⟨call, hc, hl⟩, hw⟩
    exact ⟨_, hl, isPlace_iff.mpr hw,
      (afterAny?_eq_some_iff (idioms_apart i hi)).mpr ⟨call.toList, List.mem_map_of_mem hc, rfl⟩⟩
  · rintro ⟨cs, hl, hp, ha⟩
    obtain ⟨lit, hlit, rfl⟩ := afterAny?_some ha
    obtain ⟨call, hc, rfl⟩ := List.mem_map.mp hlit
    exact ⟨⟨call, hc, hl⟩, isPlace_iff.mp hp⟩

theorem opening?_eq_some_iff (hi : i ∈ idioms) : i.opening? line = some rest ↔ ∃ before, i.IsFirstCall line before rest := by
  rw [Idiom.opening?, firstFrom_eq_some_iff]
  constructor
  · rintro ⟨before, cs, hf⟩
    refine ⟨before, (isCalledAt_iff hi).mpr ⟨cs, hf.cut, hf.place, hf.found⟩, fun before' rest' hc => ?_⟩
    obtain ⟨cs', hcut, hp, ha⟩ := (isCalledAt_iff hi).mp hc
    exact hf.first before' cs' hcut hp (by rw [ha]; rfl)
  · rintro ⟨before, hc, hfirst⟩
    obtain ⟨cs, hcut, hp, ha⟩ := (isCalledAt_iff hi).mp hc
    refine ⟨before, cs, hcut, hp, ha, fun before' cs' hcut' hp' hs => ?_⟩
    obtain ⟨rest', ha'⟩ := Option.isSome_iff_exists.mp hs
    exact hfirst before' rest' ((isCalledAt_iff hi).mpr ⟨cs', hcut', hp', ha'⟩)

theorem opening?_eq_none_iff (hi : i ∈ idioms) : i.opening? line = none ↔ ¬i.IsCalled line := by
  rw [Idiom.opening?, firstFrom_eq_none_iff]
  constructor
  · rintro h ⟨before, rest, hc⟩
    obtain ⟨cs, hcut, hp, ha⟩ := (isCalledAt_iff hi).mp hc
    cases ha.symm.trans (h before cs hcut hp)
  · intro h before cs hcut hp
    cases ha : afterAny? (i.calls.map String.toList) cs with
    | none => rfl
    | some rest => exact absurd ⟨before, rest, (isCalledAt_iff hi).mpr ⟨cs, hcut, hp, ha⟩⟩ h

theorem isSome_opening?_iff (hi : i ∈ idioms) : (i.opening? line).isSome = true ↔ i.IsCalled line := by
  rw [Option.isSome_iff_ne_none, ne_eq, opening?_eq_none_iff hi, Classical.not_not]

end

theorem exists_isFirstCall {i : Idiom} (hi : i ∈ idioms) {line : List Char} (h : i.IsCalled line) :
    ∃ before rest, i.IsFirstCall line before rest := by
  obtain ⟨rest, ho⟩ := Option.isSome_iff_exists.mp ((isSome_opening?_iff hi).mpr h)
  obtain ⟨before, hf⟩ := (opening?_eq_some_iff hi).mp ho
  exact ⟨before, rest, hf⟩

def HasCall (line : List Char) : Prop := ∃ i ∈ idioms, i.IsCalled line

theorem hasCall_iff {line : List Char} : HasCall line ↔ (idioms.any fun i => (i.opening? line).isSome) = true := by
  rw [List.any_eq_true]
  constructor
  · rintro ⟨i, hi, hc⟩
    exact ⟨i, hi, (isSome_opening?_iff hi).mpr hc⟩
  · rintro ⟨i, hi, hc⟩
    exact ⟨i, hi, (isSome_opening?_iff hi).mp hc⟩

instance (line : List Char) : Decidable (HasCall line) := decidable_of_iff _ hasCall_iff.symm

/-! ## Assignments to a retry counter -/

/-- An assignment at the start of a text, such as `retries_step1 = 3`, with all
of its digits. -/
inductive IsAssignment : List Char → List Char → Prop
  | intro {name gap gap' digits rest : List Char} (word : ∀ c ∈ name, isWord c = true) (blank : ∀ c ∈ gap, isBlank c = true)
      (blank' : ∀ c ∈ gap', isBlank c = true) (written : digits ≠ []) (row : Row isDigit digits rest) :
      IsAssignment ("retries_step".toList ++ (name ++ (gap ++ '=' :: (gap' ++ (digits ++ rest))))) digits

theorem row_blanks {p : Char → Bool} {row gap rest : List Char} {c : Char} (hrow : ∀ c ∈ row, p c = true)
    (hgap : ∀ c ∈ gap, isBlank c = true) (hb : ∀ c, isBlank c = true → p c = false) (hc : p c = false) :
    Row p row (gap ++ c :: rest) where
  all := hrow
  stop := fun d hd => by
    cases gap with
    | nil =>
      cases hd
      exact hc
    | cons g gap =>
      cases hd
      exact hb d (hgap d (List.mem_cons_self ..))

theorem IsAssignment.retryAt? {cs digits : List Char} (h : IsAssignment cs digits) : retryAt? cs = some digits := by
  cases h with
  | @intro name gap gap' _ rest hname hgap hgap' hne hrow =>
    have hw : (name ++ (gap ++ '=' :: (gap' ++ (digits ++ rest)))).dropWhile isWord = gap ++ '=' :: (gap' ++ (digits ++ rest)) :=
      (row_blanks hname hgap (fun c hc => (not_isWord_of_isBlank hc).1) (by decide)).dropWhile_eq
    have hsign : Row isBlank gap ('=' :: (gap' ++ (digits ++ rest))) := row_cons hgap (by decide)
    have hdigits : Row isBlank gap' (digits ++ rest) := by
      refine ⟨hgap', fun c hc => ?_⟩
      rw [List.head?_append_of_ne_nil _ hne] at hc
      exact digit_not_isBlank (hrow.all c (List.mem_of_mem_head? hc))
    unfold Script.retryAt?
    rw [after?_append]
    simp only [hw, skipBlanks, hsign.dropWhile_eq, hdigits.dropWhile_eq, leadingDigits, hrow.takeWhile_eq]
    rw [if_neg (by simpa using hne)]

theorem isAssignment_of_retryAt? {cs digits : List Char} (h : retryAt? cs = some digits) : IsAssignment cs digits := by
  unfold retryAt? at h
  split at h
  · cases h
  · next more ha =>
    split at h
    · next value hs =>
      dsimp only at h
      split at h
      · cases h
      · next hne =>
        cases h
        have hname := row_takeWhile isWord more
        have hgap := row_takeWhile isBlank (more.dropWhile isWord)
        have hgap' := row_takeWhile isBlank value
        have hdigits := row_takeWhile isDigit (skipBlanks value)
        have hcs : cs = "retries_step".toList ++ (more.takeWhile isWord ++ ((more.dropWhile isWord).takeWhile isBlank ++
            '=' :: (value.takeWhile isBlank ++ ((skipBlanks value).takeWhile isDigit ++
              (skipBlanks value).dropWhile isDigit)))) := by
          rw [List.takeWhile_append_dropWhile, skipBlanks, List.takeWhile_append_dropWhile, ← hs, skipBlanks,
            List.takeWhile_append_dropWhile, List.takeWhile_append_dropWhile]
          exact after?_some ha
        rw [hcs]
        exact .intro hname.all hgap.all hgap'.all (by simpa [leadingDigits] using hne) hdigits
    · cases h

theorem retryAt?_eq_some_iff {cs digits : List Char} : retryAt? cs = some digits ↔ IsAssignment cs digits :=
  ⟨isAssignment_of_retryAt?, IsAssignment.retryAt?⟩

/-- The first assignment to a retry counter in a line, behind `before`. -/
structure IsFirstAssignment (line before cs digits : List Char) : Prop where
  cut : line = before ++ cs
  word : StartsWord before
  assigns : IsAssignment cs digits
  first : ∀ before' cs' digits', line = before' ++ cs' → StartsWord before' → IsAssignment cs' digits' →
    before.length ≤ before'.length

def AssignsRetries (line digits : List Char) : Prop := ∃ before cs, IsFirstAssignment line before cs digits

theorem retryDigits?_eq_some_iff {line digits : List Char} : retryDigits? line = some digits ↔ AssignsRetries line digits := by
  rw [retryDigits?_eq, firstFrom_eq_some_iff]
  constructor
  · rintro ⟨before, cs, hf⟩
    refine ⟨before, cs, hf.cut, isPlace_iff.mp hf.place rfl, retryAt?_eq_some_iff.mp hf.found, ?_⟩
    intro before' cs' digits' hcut hw ha
    exact hf.first before' cs' hcut (isPlace_iff.mpr fun _ => hw) (by rw [ha.retryAt?]; rfl)
  · rintro ⟨before, cs, hcut, hw, ha, hfirst⟩
    refine ⟨before, cs, hcut, isPlace_iff.mpr fun _ => hw, ha.retryAt?, ?_⟩
    intro before' cs' hcut' hp hs
    obtain ⟨digits', ha'⟩ := Option.isSome_iff_exists.mp hs
    exact hfirst before' cs' digits' hcut' (isPlace_iff.mp hp rfl) (retryAt?_eq_some_iff.mp ha')

theorem retryDigits?_eq_none_iff {line : List Char} : retryDigits? line = none ↔ ∀ digits, ¬AssignsRetries line digits := by
  simp only [← retryDigits?_eq_some_iff, Option.eq_none_iff_forall_ne_some, ne_eq]

theorem exists_assignsRetries {line before cs digits : List Char} (hcut : line = before ++ cs) (hw : StartsWord before)
    (ha : IsAssignment cs digits) : ∃ digits, AssignsRetries line digits := by
  cases hd : retryDigits? line with
  | some digits' => exact ⟨digits', retryDigits?_eq_some_iff.mp hd⟩
  | none =>
    rw [retryDigits?_eq, firstFrom_eq_none_iff] at hd
    cases ha.retryAt?.symm.trans (hd before cs hcut (isPlace_iff.mpr fun _ => hw))

/-! ## Markers -/

/-- What begins a marker line: a comment sign, the word for step and a digit. -/
inductive IsMarkerText : List Char → Prop
  | intro {sign : String} {gap word gap' : List Char} {d : Char} (comment : sign ∈ ["//", "#"])
      (blank : ∀ c ∈ gap, isBlank c = true) (step : Spells "step".toList word ∨ word = "خطوة".toList)
      (blank' : ∀ c ∈ gap', isBlank c = true) (digit : isDigit d = true) :
      IsMarkerText (sign.toList ++ (gap ++ (word ++ (gap' ++ [d]))))

theorem number_iff {cs : List Char} : (!(leadingDigits (skipBlanks cs)).1.isEmpty) = true ↔
    ∃ gap d rest, cs = gap ++ d :: rest ∧ (∀ c ∈ gap, isBlank c = true) ∧ isDigit d = true := by
  constructor
  · intro h
    cases hs : skipBlanks cs with
    | nil =>
      rw [hs] at h
      cases h
    | cons d rest =>
      refine ⟨cs.takeWhile isBlank, d, rest, ?_, (row_takeWhile isBlank cs).all, ?_⟩
      · rw [← hs, skipBlanks, List.takeWhile_append_dropWhile]
      · cases hd : isDigit d with
        | true => rfl
        | false => simp [hs, leadingDigits, hd] at h
  · intro h
    obtain ⟨gap, d, rest, rfl, hgap, hd⟩ := h
    have hrow : Row isBlank gap (d :: rest) := row_cons hgap (digit_not_isBlank hd)
    rw [skipBlanks, hrow.dropWhile_eq]
    simp [leadingDigits, hd]

theorem skipBlanks_step {word : List Char} (h : Spells "step".toList word ∨ word = "خطوة".toList) (rest : List Char) :
    skipBlanks (word ++ rest) = word ++ rest := by
  have hhead : ∃ c, word.head? = some c ∧ isBlank c = false := by
    rcases h with h | rfl
    · cases h with
      | @cons _ c _ _ hc _ =>
        refine ⟨c, rfl, ?_⟩
        cases hb : isBlank c with
        | false => rfl
        | true =>
          have hall : ∀ n ∈ blankCodes, sameLetter 's' (Char.ofNat n) = false := by decide +kernel
          have hn := hall c.toNat (toNat_mem_blankCodes hb)
          rw [Char.ofNat_toNat] at hn
          cases hc.symm.trans hn
    · exact ⟨'خ', rfl, by decide⟩
  obtain ⟨c, hc, hb⟩ := hhead
  cases word with
  | nil => cases hc
  | cons c' word =>
    cases hc
    exact List.dropWhile_cons_of_neg (by simp [hb])

theorem markerSigns_apart : Apart ["//".toList, "#".toList] := by
  unfold Apart
  decide

theorem exists_isMarkerText {line : List Char} (h : isMarker line = true) : ∃ text, IsMarkerText text ∧ text <+: line := by
  unfold isMarker at h
  cases ha : afterAny? ["//".toList, "#".toList] line with
  | none =>
    rw [ha] at h
    cases h
  | some rest =>
    rw [ha] at h
    obtain ⟨sign, hsign, rfl⟩ : ∃ sign ∈ ["//", "#"], line = String.toList sign ++ rest := by
      obtain ⟨lit, hlit, hl⟩ := (afterAny?_eq_some_iff markerSigns_apart).mp ha
      rcases List.mem_pair.mp hlit with rfl | rfl
      · exact ⟨"//", by simp, hl⟩
      · exact ⟨"#", by simp, hl⟩
    have hgap := row_takeWhile isBlank rest
    have hrest : rest = rest.takeWhile isBlank ++ skipBlanks rest := List.takeWhile_append_dropWhile.symm
    -- both words for step leave a text that begins with a number
    have hnumber {word more : List Char} (hw : Spells "step".toList word ∨ word = "خطوة".toList)
        (hs : skipBlanks rest = word ++ more) (hn : (!(leadingDigits (skipBlanks more)).1.isEmpty) = true) :
        ∃ text, IsMarkerText text ∧ text <+: sign.toList ++ rest := by
      obtain ⟨gap', d, more', rfl, hgap', hd⟩ := number_iff.mp hn
      refine ⟨_, .intro hsign hgap.all hw hgap' hd, more', ?_⟩
      rw [hs] at hrest
      conv_rhs => rw [hrest]
      simp
    dsimp only at h
    cases hw : afterWord? "step".toList (skipBlanks rest) with
    | some more =>
      simp only [hw] at h
      obtain ⟨word, hspells, hs⟩ := afterWord?_eq_some_iff.mp hw
      exact hnumber (.inl hspells) hs h
    | none =>
      cases hw' : after? "خطوة".toList (skipBlanks rest) with
      | some more =>
        simp only [hw, hw'] at h
        exact hnumber (.inr rfl) (after?_some hw') h
      | none =>
        simp only [hw, hw'] at h
        cases h

theorem IsMarkerText.isMarker {text line : List Char} (ht : IsMarkerText text) (hp : text <+: line) : isMarker line = true := by
  obtain ⟨more, rfl⟩ := hp
  cases ht with
  | @intro sign gap word gap' d hsign hgap hw hgap' hd =>
    have ha : afterAny? ["//".toList, "#".toList] (sign.toList ++ (gap ++ (word ++ (gap' ++ [d]))) ++ more) =
        some (gap ++ (word ++ (gap' ++ d :: more))) := by
      refine (afterAny?_eq_some_iff markerSigns_apart).mpr ⟨sign.toList, ?_, by simp⟩
      rcases List.mem_pair.mp hsign with rfl | rfl <;> simp
    have hskip : skipBlanks (gap ++ (word ++ (gap' ++ d :: more))) = word ++ (gap' ++ d :: more) := by
      rw [skipBlanks, List.dropWhile_append_of_pos hgap]
      exact skipBlanks_step hw _
    have hn : (!(leadingDigits (skipBlanks (gap' ++ d :: more))).1.isEmpty) = true := number_iff.mpr ⟨gap', d, more, rfl, hgap', hd⟩
    unfold Script.isMarker
    rw [ha]
    dsimp only
    rw [hskip]
    rcases hw with hw | rfl
    · rw [afterWord?_eq_some_iff.mpr ⟨word, hw, rfl⟩]
      exact hn
    · have hother : afterWord? "step".toList ("خطوة".toList ++ (gap' ++ d :: more)) = none := rfl
      rw [hother, after?_append]
      exact hn

theorem isMarker_iff {line : List Char} : isMarker line = true ↔ ∃ text, IsMarkerText text ∧ text <+: line :=
  ⟨exists_isMarkerText, fun ⟨_, ht, hp⟩ => ht.isMarker hp⟩

/-! ## Marks -/

def HasWarnCall (line : List Char) : Prop :=
  ∃ call ∈ ["console.warn(", "logger.warning(", "logging.warning("], call.toList <:+: line

theorem hasWarning_iff {line : List Char} : hasWarning line = true ↔ HasWarnCall line := by
  simp only [hasWarning, HasWarnCall, List.any_eq_true, contains_iff]

/-- A word for skipping an error, in any case, or the Arabic words for it. -/
def HasSkipMark (line : List Char) : Prop :=
  (∃ word ∈ ["skip", "ignor"], ∃ text, Spells word.toList text ∧ text <:+: line) ∨ "تخطي الخطأ".toList <:+: line

theorem skipAt?_isSome_iff {cs : List Char} : (skipAt? cs).isSome = true ↔
    ∃ word ∈ ["skip", "ignor"], ∃ text, Spells word.toList text ∧ text <+: cs := by
  have hword (word : String) : (afterWord? word.toList cs).isSome = true ↔ ∃ text, Spells word.toList text ∧ text <+: cs := by
    rw [Option.isSome_iff_exists]
    constructor
    · rintro ⟨rest, h⟩
      obtain ⟨text, ht, rfl⟩ := afterWord?_eq_some_iff.mp h
      exact ⟨text, ht, List.prefix_append text rest⟩
    · rintro ⟨text, ht, rest, rfl⟩
      exact ⟨rest, afterWord?_eq_some_iff.mpr ⟨text, ht, rfl⟩⟩
  have hor : (skipAt? cs).isSome = ((afterWord? "skip".toList cs).isSome || (afterWord? "ignor".toList cs).isSome) := by
    unfold skipAt?
    cases afterWord? "skip".toList cs <;> rfl
  simp only [hor, Bool.or_eq_true, hword, List.mem_cons, List.not_mem_nil, or_false, exists_eq_or_imp, exists_eq_left]

theorem hasSkip_iff {line : List Char} : hasSkip line = true ↔ HasSkipMark line := by
  rw [hasSkip, Bool.or_eq_true, contains_iff, HasSkipMark]
  refine or_congr_left ?_
  rw [firstAt, Option.isSome_iff_ne_none, ne_eq, firstFrom_eq_none_iff]
  constructor
  · intro h
    simp only [not_forall] at h
    obtain ⟨before, rest, rfl, _, hs⟩ := h
    obtain ⟨word, hw, text, ht, more, rfl⟩ := skipAt?_isSome_iff.mp (Option.isSome_iff_ne_none.mpr hs)
    exact ⟨word, hw, text, ht, before, more, by rw [List.append_assoc]⟩
  · rintro ⟨word, hw, text, ht, before, more, rfl⟩ h
    have hn := h before (text ++ more) (List.append_assoc ..) rfl
    have hs := skipAt?_isSome_iff.mpr ⟨word, hw, text, ht, List.prefix_append text more⟩
    rw [hn] at hs
    cases hs

theorem skipsErrors_iff {line : List Char} : skipsErrors line = true ↔ HasWarnCall line ∧ HasSkipMark line := by
  rw [skipsErrors_eq, Bool.and_eq_true, hasWarning_iff, hasSkip_iff]

def HasPageCall (line : List Char) : Prop :=
  ∃ before name rest, line = before ++ ("page.".toList ++ (name ++ '(' :: rest)) ∧ StartsWord before ∧ name ≠ [] ∧
    ∀ c ∈ name, (isWord c || c = '$') = true

def pageCallAt? (cs : List Char) : Option Unit :=
  match after? "page.".toList cs with
  | none => none
  | some rest =>
    match rest.takeWhile fun c => isWord c || c = '$', rest.dropWhile fun c => isWord c || c = '$' with
    | _ :: _, '(' :: _ => some ()
    | _, _ => none

theorem hasPageCall_eq (line : List Char) : hasPageCall line = (firstFrom true pageCallAt? false line).isSome := rfl

theorem pageCallAt?_isSome_iff {cs : List Char} : (pageCallAt? cs).isSome = true ↔
    ∃ name rest, cs = "page.".toList ++ (name ++ '(' :: rest) ∧ name ≠ [] ∧ ∀ c ∈ name, (isWord c || c = '$') = true := by
  constructor
  · intro h
    unfold pageCallAt? at h
    split at h
    · cases h
    · next more ha =>
      split at h
      · next n name rest hname hrest =>
        have hrow := row_takeWhile (fun c => isWord c || c = '$') more
        rw [hname, hrest] at hrow
        refine ⟨n :: name, rest, ?_, by simp, hrow.all⟩
        rw [after?_some ha, ← hname, ← hrest, List.takeWhile_append_dropWhile]
      · cases h
  · rintro ⟨name, rest, rfl, hne, hall⟩
    have hrow : Row (fun c => isWord c || c = '$') name ('(' :: rest) := row_cons hall (by decide)
    unfold pageCallAt?
    rw [after?_append]
    cases name with
    | nil => exact absurd rfl hne
    | cons n name => simp only [hrow.takeWhile_eq, hrow.dropWhile_eq, Option.isSome_some]

theorem hasPageCall_iff {line : List Char} : hasPageCall line = true ↔ HasPageCall line := by
  rw [hasPageCall_eq, Option.isSome_iff_ne_none, ne_eq, firstFrom_eq_none_iff]
  constructor
  · intro h
    simp only [not_forall] at h
    obtain ⟨before, cs, rfl, hp, hs⟩ := h
    obtain ⟨name, rest, rfl, hne, hall⟩ := pageCallAt?_isSome_iff.mp (Option.isSome_iff_ne_none.mpr hs)
    exact ⟨before, name, rest, rfl, isPlace_iff.mp hp rfl, hne, hall⟩
  · rintro ⟨before, name, rest, rfl, hw, hne, hall⟩ h
    have hn := h before _ rfl (isPlace_iff.mpr fun _ => hw)
    have hs := pageCallAt?_isSome_iff.mpr ⟨name, rest, rfl, hne, hall⟩
    rw [hn] at hs
    cases hs

instance (line : List Char) : Decidable (HasPageCall line) := decidable_of_iff _ hasPageCall_iff

end BrowserPilot.Script
