import BrowserPilot.Browser.InitScript
import BrowserPilot.Proofs.Json.OneLine
import BrowserPilot.Proofs.Text.Replace

/-!
# What is put into the init script

The values of the placeholders are put in one after the other. Only the
languages hold text of the profile, and they are put in first, so the later
replacements also act on a locale that holds one of their placeholders.
-/

namespace BrowserPilot

open Text

/-! ## Placeholders and quoted text -/

def isSign (c : Char) : Bool := c == '_' || c.isUpper

structure IsPlaceholder (text : List Char) : Prop where
  start : text.head? = some '_'
  signs : ∀ c ∈ text, isSign c = true

namespace IsPlaceholder

variable {text : List Char}

theorem ne_nil (h : IsPlaceholder text) : text ≠ [] := by
  intro hnil
  simpa [hnil] using h.start

theorem not_mem (h : IsPlaceholder text) {c : Char} (hc : isSign c = false) : c ∉ text := by
  intro hmem
  simp [h.signs c hmem] at hc

theorem infix_cut (h : IsPlaceholder text) {c : Char} (hc : isSign c = false) {before rest : List Char} :
    text <:+: before ++ c :: rest ↔ text <:+: before ∨ text <:+: rest :=
  Text.infix_cut h.ne_nil (h.not_mem hc)

theorem infix_cons (h : IsPlaceholder text) {c : Char} (hc : isSign c = false) {rest : List Char} :
    text <:+: c :: rest ↔ text <:+: rest := by
  rw [← List.nil_append (c :: rest), h.infix_cut hc]
  simp [h.ne_nil]

/-- No placeholder starts where there is no underscore. -/
theorem infix_behind (h : IsPlaceholder text) {before : List Char} (hb : '_' ∉ before) (rest : List Char) :
    text <:+: before ++ rest ↔ text <:+: rest := by
  induction before with
  | nil => rfl
  | cons c before ih =>
    simp only [List.mem_cons, not_or] at hb
    have hstart : ¬ text <+: c :: (before ++ rest) := by
      intro hp
      have hhead := h.start
      cases text with
      | nil => cases hhead
      | cons d text =>
        cases hhead
        exact hb.1 (List.cons_prefix_cons.mp hp).1
    rw [List.cons_append, List.infix_cons_iff, ih hb.2]
    simp [hstart]

end IsPlaceholder

namespace Json

theorem escapeChar_sign {c : Char} (h : isSign c = true) : escapeChar true c = [c] := by
  have hne (d : Char) (hd : isSign d = false) : c ≠ d := by
    intro hcd
    simp [← hcd, h] at hd
  have hcode : 0x20 ≤ c.toNat ∧ c.toNat < 0x7F := by
    rw [isSign, Bool.or_eq_true, beq_iff_eq] at h
    rcases h with rfl | h
    · decide
    · have hrange : c.val ≥ 65 ∧ c.val ≤ 90 := of_decide_eq_true h
      have hlow : 65 ≤ c.toNat := UInt32.le_iff_toNat_le.mp hrange.1
      have hhigh : c.toNat ≤ 90 := UInt32.le_iff_toNat_le.mp hrange.2
      omega
  have hascii : ¬(true && decide (0x7F ≤ c.toNat)) = true := by simp [hcode.2]
  rw [escapeChar, if_neg (hne _ rfl), if_neg (hne _ rfl), if_neg (hne _ rfl), if_neg (hne _ rfl), if_neg (hne _ rfl),
    if_neg (hne _ rfl), if_neg (hne _ rfl), if_neg (Nat.not_lt.mpr hcode.1), if_neg hascii]

theorem escapeChar_cases (c : Char) : escapeChar true c = [c] ∨
    (escapeChar true c).head? = some '\\' ∧ '_' ∉ escapeChar true c := by
  have hunit (n : Nat) : '_' ∉ unitEscape n := not_mem_unitEscape (by decide) n
  have hescape := escapes_escapeChar true c
  generalize escapeChar true c = cs at hescape ⊢
  cases hescape with
  | plain => exact .inl rfl
  | marked _ h =>
    refine .inr ⟨rfl, ?_⟩
    simp only [List.mem_cons, List.not_mem_nil, or_false, not_or]
    refine ⟨by decide, ?_⟩
    intro hmark
    subst hmark
    cases h []
  | unit => exact .inr ⟨rfl, hunit _⟩
  | units => exact .inr ⟨rfl, by simp [hunit]⟩

theorem prefix_escaped_iff {text : List Char} (h : ∀ c ∈ text, isSign c = true) (cs : List Char) :
    text <+: cs.flatMap (escapeChar true) ↔ text <+: cs := by
  induction text generalizing cs with
  | nil => simp
  | cons d text ih =>
    obtain ⟨hd, htext⟩ := List.forall_mem_cons.mp h
    cases cs with
    | nil => simp
    | cons c cs =>
      rw [List.flatMap_cons, List.cons_prefix_cons]
      rcases escapeChar_cases c with hc | ⟨hhead, _⟩
      · rw [hc, List.singleton_append, List.cons_prefix_cons, ih htext]
      · have hcd : d ≠ c := by
          intro hcd
          subst hcd
          rw [escapeChar_sign hd, List.head?_cons, Option.some.injEq] at hhead
          subst hhead
          cases hd
        cases hescape : escapeChar true c with
        | nil => simp [hescape] at hhead
        | cons e escape =>
          rw [hescape, List.head?_cons, Option.some.injEq] at hhead
          subst hhead
          rw [List.cons_append, List.cons_prefix_cons]
          have hd' : d ≠ '\\' := by
            intro hslash
            subst hslash
            cases hd
          simp [hcd, hd']

theorem infix_escaped_iff {text : List Char} (h : IsPlaceholder text) (cs : List Char) :
    text <:+: cs.flatMap (escapeChar true) ↔ text <:+: cs := by
  induction cs with
  | nil => rfl
  | cons c cs ih =>
    have hp := prefix_escaped_iff h.signs (c :: cs)
    rw [List.flatMap_cons] at hp ⊢
    by_cases hc : escapeChar true c = [c]
    · rw [hc, List.singleton_append] at hp ⊢
      rw [List.infix_cons_iff, List.infix_cons_iff, hp, ih]
    · have hescape := (escapeChar_cases c).resolve_left hc
      have hsign : c ≠ '_' := by
        intro hsign
        apply hc
        rw [hsign]
        decide
      have hone : '_' ∉ [c] := by simpa using hsign.symm
      rw [h.infix_behind hescape.2, ih, ← List.singleton_append, h.infix_behind hone]

theorem infix_quote_append_iff {text : List Char} (h : IsPlaceholder text) (s : String) (rest : List Char) :
    text <:+: quote true s ++ rest ↔ text <:+: s.toList ∨ text <:+: rest := by
  rw [quote, List.cons_append, h.infix_cons (by decide), List.append_assoc, List.singleton_append,
    h.infix_cut (by decide), infix_escaped_iff h]

theorem infix_writeItems_iff {text : List Char} (h : IsPlaceholder text) (depth : Nat) (ss : List String) :
    text <:+: writeItems .spaced depth (ss.map .str) ↔ ∃ s ∈ ss, text <:+: s.toList := by
  induction ss with
  | nil => simp [writeItems, h.ne_nil]
  | cons s ss ih =>
    have hwrite : writeItems .spaced depth ((s :: ss).map .str) =
        ',' :: ' ' :: (quote true s ++ writeItems .spaced depth (ss.map .str)) := by
      simp [writeItems, write, lineStart, Style.spaced]
    rw [hwrite, h.infix_cons (by decide), h.infix_cons (by decide), infix_quote_append_iff h, ih, List.exists_mem_cons_iff]

theorem infix_render_iff {text : List Char} (h : IsPlaceholder text) (ss : List String) :
    text <:+: (render .spaced (.arr (ss.map .str))).toList ↔ ∃ s ∈ ss, text <:+: s.toList := by
  rw [render, String.toList_ofList]
  cases ss with
  | nil =>
    have hempty : write .spaced 0 (.arr ([].map .str)) = ['[', ']'] := by simp [write]
    rw [hempty, h.infix_cons (by decide), h.infix_cons (by decide)]
    simp [h.ne_nil]
  | cons s ss =>
    have hwrite : write .spaced 0 (.arr ((s :: ss).map .str)) =
        '[' :: (quote true s ++ (writeItems .spaced 1 (ss.map .str) ++ ']' :: [])) := by
      simp [write, lineStart, Style.spaced]
    rw [hwrite, h.infix_cons (by decide), infix_quote_append_iff h, h.infix_cut (by decide), infix_writeItems_iff h,
      List.exists_mem_cons_iff]
    simp [h.ne_nil]

end Json

namespace InitScript

/-! ## Placeholders of the script -/

/-- The placeholders whose values are put in after the languages. -/
def laterValues (platform : String) : List (String × String) := [
  ("__PLATFORM__", Json.render .spaced (.str platform)),
  ("__SCREEN_INSET__", toString (screenInset platform)),
  ("__CANVAS_NOISE__", toString canvasNoise),
  ("__AUDIO_NOISE__", audioNoise.text .report)]

def languagesText (p : Profile) : String := Json.render .spaced (.arr (p.languages.map .str))

theorem values_eq (p : Profile) : values p = ("__LANGUAGES__", languagesText p) :: laterValues p.platform := rfl

def laterPlaceholders : List (List Char) :=
  ["__PLATFORM__".toList, "__SCREEN_INSET__".toList, "__CANVAS_NOISE__".toList, "__AUDIO_NOISE__".toList]

def placeholders : List (List Char) := "__LANGUAGES__".toList :: laterPlaceholders

theorem isClear_placeholders : IsClear placeholders := by
  constructor
  · decide
  · decide

theorem isPlaceholder_of_mem {text : List Char} (h : text ∈ placeholders) : IsPlaceholder text := by
  have hall : placeholders.all (fun text => text.head? == some '_' && text.all isSign) = true := by decide
  have htext := List.all_eq_true.mp hall text h
  rw [Bool.and_eq_true, beq_iff_eq, List.all_eq_true] at htext
  exact ⟨htext.1, htext.2⟩

theorem isForeign_placeholders {c : Char} (hc : isSign c = false) : IsForeign placeholders c :=
  fun _ h => (isPlaceholder_of_mem h).not_mem hc

theorem platform_cases (p : Profile) : p.platform ∈ ["Win32", "MacIntel", "Linux x86_64"] := by
  unfold Profile.platform
  split
  · simp
  · split <;> simp

/-- No later value holds a placeholder, and each has fewer underscores than its
own. -/
theorem laterValues_settled : ∀ platform ∈ ["Win32", "MacIntel", "Linux x86_64"],
    settle (laterValues platform) = laterValues platform ∧ Thins '_' (laterValues platform) := by
  decide +kernel

theorem infix_languagesText_iff {p : Profile} {text : List Char} (h : IsPlaceholder text) :
    text <:+: (languagesText p).toList ↔ text <:+: p.locale.toList := by
  rw [languagesText, Json.infix_render_iff h]
  constructor
  · intro ⟨s, hs, hi⟩
    have hplain (s : String) (hs : '_' ∉ s.toList) : ¬ text <:+: s.toList := by
      intro hi
      exact hs (hi.subset (List.mem_of_head? h.start))
    simp only [Profile.languages, List.mem_append, List.mem_singleton] at hs
    rcases hs with (rfl | hs) | hs
    · exact hi
    · split at hs
      · cases hs
      · rw [List.mem_singleton.mp hs, Profile.language, String.toList_ofList] at hi
        exact hi.trans (List.takeWhile_prefix _).isInfix
    · split at hs
      · cases hs
      · simp only [List.mem_cons, List.not_mem_nil, or_false] at hs
        rcases hs with rfl | rfl
        · exact absurd hi (hplain _ (by decide))
        · exact absurd hi (hplain _ (by decide))
  · intro hi
    exact ⟨p.locale, by simp [Profile.languages], hi⟩

/-! ## The lines of the template -/

def IsLaid (cs : List Char) : Prop := ∀ word ∈ cs.splitOnP (!isSign ·), word ∈ placeholders ∨ Lacks placeholders word

instance (cs : List Char) : Decidable (IsLaid cs) := inferInstanceAs (Decidable (∀ word ∈ _, _))

theorem IsLaid.laid {cs : List Char} (h : IsLaid cs) : Laid placeholders cs :=
  laid_of_words (fun _ hc => isForeign_placeholders (by simpa using hc)) h

theorem map_toList_cons {cs : List Char} {lines : List String} {css : List (List Char)} (h : lines.map String.toList = css) :
    (String.ofList cs :: lines).map String.toList = cs :: css := by
  rw [List.map_cons, String.toList_ofList, h]

theorem navigator_laid : ∃ css, spoofNavigator.map String.toList = css ∧ (∀ cs ∈ css, IsLaid cs) ∧
    ∃ cs ∈ css, " __LANGUAGES__,".toList <:+: cs := by
  apply Exists.intro
  constructor
  · unfold spoofNavigator
    repeat (first | exact List.map_nil | apply map_toList_cons)
  · decide +kernel

theorem others_laid : ∃ css, (hideAutomation ++ maskFingerprint ++ maskHardware).map String.toList = css ∧
    ∀ cs ∈ css, IsLaid cs ∧ ¬ "__LANGUAGES__".toList <:+: cs := by
  apply Exists.intro
  constructor
  · simp only [hideAutomation, maskFingerprint, maskHardware, List.cons_append, List.nil_append]
    repeat (first | exact List.map_nil | apply map_toList_cons)
  · decide +kernel

section
variable {P : List Char → Prop}

theorem intercalate_induction (nil : P []) (join : ∀ {before rest}, P before → P rest → P (before ++ '\n' :: rest))
    {lines : List String} (h : ∀ cs ∈ lines.map String.toList, P cs) : P ("\n".intercalate lines).toList := by
  rw [String.toList_intercalate]
  generalize lines.map String.toList = css at h ⊢
  induction css with
  | nil => exact nil
  | cons cs css ih =>
    rw [List.forall_mem_cons] at h
    cases css with
    | nil =>
      rw [List.intercalate_singleton]
      exact h.1
    | cons cs' css =>
      rw [List.intercalate_cons_cons, List.append_assoc]
      exact join h.1 (ih h.2)

/-- What holds of all lines and is kept by a line end holds of the template. -/
theorem template_induction (nil : P []) (join : ∀ {before rest}, P before → P rest → P (before ++ '\n' :: rest))
    {c : Countermeasures} (h : ∀ block ∈ blocks c, ∀ cs ∈ block.map String.toList, P cs) : P (template c).toList := by
  apply intercalate_induction nil join
  intro cs hcs
  simp only [List.mem_map] at hcs
  obtain ⟨text, ⟨block, hblock, rfl⟩, rfl⟩ := hcs
  have htext : (blockText block).toList = [] ++ '\n' :: (("\n".intercalate block).toList ++ '\n' :: []) := by
    simp [blockText]
  rw [htext]
  exact join nil (join (intercalate_induction nil join (h block hblock)) nil)

end

theorem infix_intercalate {lines : List String} {line : String} (h : line ∈ lines) :
    line.toList <:+: ("\n".intercalate lines).toList := by
  have hmem : line.toList ∈ lines.map String.toList := List.mem_map_of_mem h
  rw [String.toList_intercalate]
  generalize lines.map String.toList = css at hmem ⊢
  induction css with
  | nil => cases hmem
  | cons cs css ih =>
    cases css with
    | nil =>
      rw [List.intercalate_singleton, ← List.mem_singleton.mp hmem]
    | cons cs' css =>
      rw [List.intercalate_cons_cons]
      rcases List.mem_cons.mp hmem with hfirst | hmem
      · rw [← hfirst, List.append_assoc]
        exact (List.prefix_append ..).isInfix
      · exact (ih hmem).trans (List.suffix_append ..).isInfix

theorem infix_template {c : Countermeasures} {block : List String} (hblock : block ∈ blocks c) {line : String}
    (hline : line ∈ block) : line.toList <:+: (template c).toList := by
  have htext : ("\n".intercalate block).toList <:+: (blockText block).toList := by
    rw [blockText, String.toList_append, String.toList_append]
    exact List.infix_append ..
  exact ((infix_intercalate hline).trans htext).trans (infix_intercalate (List.mem_map_of_mem hblock))

theorem blocks_cases {c : Countermeasures} {block : List String} (h : block ∈ blocks c) :
    c.spoofsNavigator = true ∧ block = spoofNavigator ∨ block ⊆ hideAutomation ++ maskFingerprint ++ maskHardware := by
  simp only [blocks, List.mem_append] at h
  rcases h with ((h | h) | h) | h
  · split at h
    · right
      simp [List.mem_singleton.mp h]
    · cases h
  · split at h
    · next hspoofs => exact .inl ⟨hspoofs, List.mem_singleton.mp h⟩
    · cases h
  · split at h
    · right
      simp [List.mem_singleton.mp h]
    · cases h
  · split at h
    · right
      simp [List.mem_singleton.mp h]
    · cases h

theorem template_laid (c : Countermeasures) : Laid placeholders (template c).toList := by
  obtain ⟨_, rfl, hnavigator, _⟩ := navigator_laid
  obtain ⟨_, rfl, hothers⟩ := others_laid
  apply template_induction
  · exact .plain (by decide)
  · exact .join (isForeign_placeholders (by decide))
  · intro block hblock cs hcs
    rcases blocks_cases hblock with ⟨_, rfl⟩ | hsub
    · exact (hnavigator cs hcs).laid
    · exact (hothers cs (List.map_subset _ hsub hcs)).1.laid

theorem template_lacks {c : Countermeasures} (h : c.spoofsNavigator = false) :
    Lacks ["__LANGUAGES__".toList] (template c).toList := by
  obtain ⟨_, rfl, hothers⟩ := others_laid
  apply template_induction
  · decide
  · exact lacks_cut (by decide) (by unfold IsForeign; decide)
  · intro block hblock cs hcs
    rcases blocks_cases hblock with ⟨hspoofs, _⟩ | hsub
    · simp [h] at hspoofs
    · exact List.forall_mem_singleton.mpr (hothers cs (List.map_subset _ hsub hcs)).2

theorem template_place {c : Countermeasures} (h : c.spoofsNavigator = true) :
    ∃ before rest, (template c).toList = before ++ ' ' :: ("__LANGUAGES__".toList ++ ',' :: rest) := by
  obtain ⟨_, rfl, _, cs, hcs, hplace⟩ := navigator_laid
  obtain ⟨line, hline, rfl⟩ := List.mem_map.mp hcs
  have hblock : spoofNavigator ∈ blocks c := by simp [blocks, h]
  obtain ⟨before, rest, htemplate⟩ := hplace.trans (infix_template hblock hline)
  refine ⟨before, rest, ?_⟩
  rw [← htemplate]
  simp

/-! ## The script -/

def wrap (body : List Char) : String := "(() => \x7b\n" ++ String.ofList body ++ "\n\x7d)();\n"

theorem wrap_inj {body body' : List Char} : wrap body = wrap body' ↔ body = body' := by
  constructor
  · intro h
    simpa [wrap] using congrArg String.toList h
  · intro h
    rw [h]

/-- The values once all replacements are made: only the languages may differ. -/
theorem settle_values (p : Profile) : settle (values p) =
    ("__LANGUAGES__", String.ofList (replaceEach (laterValues p.platform) (languagesText p).toList)) ::
      laterValues p.platform := by
  rw [values_eq, settle, (laterValues_settled _ (platform_cases p)).1]

theorem build_eq_wrap (p : Profile) (c : Countermeasures) :
    build p c = wrap (replaceEach (values p) (template c).toList) := rfl

theorem build_eq_together (p : Profile) (c : Countermeasures) :
    build p c = wrap (replaceTogether (settle (values p)) (template c).toList) := by
  have hclear : IsClear (texts (values p)) := isClear_placeholders
  have hlaid : Laid (texts (values p)) (template c).toList := template_laid c
  rw [build_eq_wrap, replaceEach_eq_together hclear hlaid]

theorem build_exact {p : Profile} {c : Countermeasures}
    (h : c.spoofsNavigator = true → Lacks laterPlaceholders p.locale.toList) :
    build p c = wrap (replaceTogether (values p) (template c).toList) := by
  rw [build_eq_together, settle_values, values_eq]
  by_cases hspoofs : c.spoofsNavigator = true
  · have hlacks : Lacks (texts (laterValues p.platform)) (languagesText p).toList := by
      intro text htext hi
      have hplaceholder := isPlaceholder_of_mem (List.mem_cons_of_mem _ htext)
      exact h hspoofs text htext ((infix_languagesText_iff hplaceholder).mp hi)
    rw [replaceEach_lacking hlacks, String.ofList_toList]
  · have hlacks := template_lacks (by simpa using hspoofs) _ (List.mem_singleton.mpr rfl)
    have hunused (value : String) : replaceTogether (("__LANGUAGES__", value) :: laterValues p.platform) (template c).toList =
        replaceTogether (laterValues p.platform) (template c).toList := replaceTogetherFrom_unused 0 hlacks
    rw [hunused, hunused]

/-- A placeholder in the locale is replaced inside the languages. -/
theorem build_ne {p : Profile} {c : Countermeasures} (hspoofs : c.spoofsNavigator = true) {text : List Char}
    (htext : text ∈ laterPlaceholders) (h : text <:+: p.locale.toList) :
    build p c ≠ wrap (replaceTogether (values p) (template c).toList) := by
  have hplaceholder := isPlaceholder_of_mem (List.mem_cons_of_mem _ htext)
  have hthins := (laterValues_settled _ (platform_cases p)).2
  have hnot : ¬ Lacks (texts (laterValues p.platform)) (languagesText p).toList :=
    fun hlacks => hlacks text htext ((infix_languagesText_iff hplaceholder).mpr h)
  have hthinner := (replaceEach_lacks_or_thinner hthins (languagesText p).toList).resolve_left hnot
  have hless : (String.ofList (replaceEach (laterValues p.platform) (languagesText p).toList)).toList.count '_' <
      (languagesText p).toList.count '_' := by rwa [String.toList_ofList]
  obtain ⟨before, rest, htemplate⟩ := template_place hspoofs
  have hclear (value : String) : IsClear (texts (("__LANGUAGES__", value) :: laterValues p.platform)) := isClear_placeholders
  have hforeign (value : String) (c : Char) (hc : isSign c = false) :
      IsForeign (texts (("__LANGUAGES__", value) :: laterValues p.platform)) c := isForeign_placeholders hc
  rw [build_eq_together, settle_values, values_eq, Ne, wrap_inj, htemplate]
  intro hsame
  have hfewer := count_replaceTogether_lt hless (hclear _) (hforeign _ ' ' rfl) (hforeign _ ',' rfl) before rest
  rw [hsame] at hfewer
  exact Nat.lt_irrefl _ hfewer

/-- **The values stand in the script as they are** unless the languages are
shown and the locale holds a placeholder that is replaced after them. In any
case the script is the template with, in place of the languages, what the later
replacements leave of them. -/
theorem build_exact_iff (p : Profile) (c : Countermeasures) :
    build p c = wrap (replaceTogether (settle (values p)) (template c).toList) ∧
      (build p c = wrap (replaceTogether (values p) (template c).toList) ↔
        (c.spoofsNavigator = true → Lacks laterPlaceholders p.locale.toList)) := by
  refine ⟨build_eq_together p c, ?_, build_exact⟩
  intro hexact hspoofs text htext hi
  exact build_ne hspoofs htext hi hexact

/-- The platform is told twice, once inside the languages. -/
theorem platform_locale_rewritten : ∃ (p : Profile) (c : Countermeasures), p.locale = "__PLATFORM__" ∧
    settle (values p) = ("__LANGUAGES__", "[\"\"Win32\"\", \"en-US\", \"en\"]") :: laterValues p.platform ∧
      build p c ≠ wrap (replaceTogether (values p) (template c).toList) := by
  refine ⟨⟨"Windows NT 10.0", ⟨1280, 720⟩, "Europe/Berlin", "__PLATFORM__"⟩, {}, rfl, ?_, ?_⟩
  · decide +kernel
  · exact build_ne rfl (List.mem_cons_self ..) (List.infix_refl _)

end InitScript

end BrowserPilot
