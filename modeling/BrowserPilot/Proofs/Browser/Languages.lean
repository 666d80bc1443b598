import BrowserPilot.Browser.InitScript
import BrowserPilot.Browser.Launch
import BrowserPilot.Proofs.Json.RoundTrip
import Mathlib.Data.List.TakeWhile

/-!
# The languages of a session

A session tells its languages twice, in a header of every request and to the
scripts of a page. Both lists are made from the locale of the profile.
-/

namespace BrowserPilot

/-! ## Tags in a header -/

def unweighted (part : List Char) : String := String.ofList (part.takeWhile (· ≠ ';'))

/-- The tags that a header lists, in order and without their weights. -/
def listedTags (header : String) : List String := (header.toList.splitOn ',').map unweighted

/-- A text without the signs that stand between tags and before weights. -/
def IsPlainTag (tag : String) : Prop := ',' ∉ tag.toList ∧ ';' ∉ tag.toList

theorem not_mem_of_mem_splitOn {c : Char} : ∀ {cs part : List Char}, part ∈ cs.splitOn c → c ∉ part
  | [], part, h => by
    rw [List.splitOn_nil, List.mem_singleton] at h
    simp [h]
  | x :: cs, part, h => by
    rw [List.splitOn_cons_eq_if_modifyHead] at h
    by_cases hx : x = c
    · simp only [hx, beq_self_eq_true, if_true, List.mem_cons] at h
      rcases h with rfl | h
      · simp
      · exact not_mem_of_mem_splitOn h
    · rw [if_neg (by simpa using hx)] at h
      cases hsplit : cs.splitOn c with
      | nil => exact absurd hsplit (List.splitOn_ne_nil c cs)
      | cons first rest =>
        have hfirst : first ∈ cs.splitOn c := by simp [hsplit]
        have hrest : ∀ later ∈ rest, later ∈ cs.splitOn c := fun later hlater => by simp [hsplit, hlater]
        simp only [hsplit, List.modifyHead_cons, List.mem_cons] at h
        rcases h with rfl | h
        · simp [not_mem_of_mem_splitOn hfirst, Ne.symm hx]
        · exact not_mem_of_mem_splitOn (hrest part h)

theorem isPlainTag_of_listed {header tag : String} (h : tag ∈ listedTags header) : IsPlainTag tag := by
  rw [listedTags, List.mem_map] at h
  obtain ⟨part, hpart, rfl⟩ := h
  rw [IsPlainTag, unweighted, String.toList_ofList]
  constructor
  · intro hc
    exact not_mem_of_mem_splitOn hpart (List.takeWhile_subset _ hc)
  · intro hc
    simpa using List.mem_takeWhile_imp hc

theorem unweighted_weighted {tag : String} (h : IsPlainTag tag) (weight : List Char) :
    unweighted (tag.toList ++ ';' :: weight) = tag := by
  have hplain : ∀ c ∈ tag.toList, decide (c ≠ ';') = true := by
    intro c hc
    simpa using ne_of_mem_of_not_mem hc h.2
  rw [unweighted, List.takeWhile_append_of_pos hplain]
  simp

theorem unweighted_plain {tag : String} (h : IsPlainTag tag) : unweighted tag.toList = tag := by
  have hplain : ∀ c ∈ tag.toList, decide (c ≠ ';') = true := by
    intro c hc
    simpa using ne_of_mem_of_not_mem hc h.2
  rw [unweighted, List.takeWhile_eq_self_iff.mpr hplain, String.ofList_toList]

namespace Profile

theorem language_subset (locale : String) : (language locale).toList ⊆ locale.toList := by
  rw [language, String.toList_ofList]
  exact List.takeWhile_subset _

theorem isPlainTag_language {locale : String} (h : IsPlainTag locale) : IsPlainTag (language locale) :=
  ⟨fun hc => h.1 (language_subset locale hc), fun hc => h.2 (language_subset locale hc)⟩

end Profile

namespace ContextOptions

open Profile

theorem listedTags_append {part : String} (h : ',' ∉ part.toList) (rest : String) :
    listedTags (part ++ ("," ++ rest)) = unweighted part.toList :: listedTags rest := by
  have hcut : (part ++ ("," ++ rest)).toList = part.toList ++ ',' :: rest.toList := by simp
  rw [listedTags, hcut, List.splitOn_append_cons_self_of_not_mem h, List.map_cons]
  rfl

theorem listedTags_single {part : String} (h : ',' ∉ part.toList) : listedTags part = [unweighted part.toList] := by
  rw [listedTags, List.splitOn_eq_singleton h, List.map_singleton]

theorem listedTags_acceptLanguage {locale : String} (h : IsPlainTag locale) :
    listedTags (acceptLanguage locale) = [locale] ++ (if language locale = locale then [] else [language locale]) ++
      (if language locale = "en" then [] else ["en"]) := by
  have hlanguage := isPlainTag_language h
  have hpart : ',' ∉ (language locale ++ ";q=0.9").toList := by simp [hlanguage.1]
  have hweighted : unweighted (language locale ++ ";q=0.9").toList = language locale := by
    rw [String.toList_append]
    exact unweighted_weighted hlanguage _
  have hlast : listedTags "en;q=0.8" = ["en"] := by decide
  have hcut : ",en;q=0.8" = "," ++ "en;q=0.8" := by decide
  unfold acceptLanguage
  simp only
  by_cases hsame : language locale = locale
  · rw [if_pos hsame, if_pos hsame, String.append_empty]
    by_cases hen : language locale = "en"
    · rw [if_pos hen, if_pos hen, String.append_empty, listedTags_single h.1, unweighted_plain h]
      rfl
    · rw [if_neg hen, if_neg hen, hcut, listedTags_append h.1, hlast, unweighted_plain h]
      rfl
  · rw [if_neg hsame, if_neg hsame]
    by_cases hen : language locale = "en"
    · rw [if_pos hen, if_pos hen, String.append_empty, String.append_assoc, listedTags_append h.1,
        listedTags_single hpart, hweighted, unweighted_plain h]
      rfl
    · have hparts : locale ++ ("," ++ language locale ++ ";q=0.9") ++ ",en;q=0.8" =
          locale ++ ("," ++ (language locale ++ ";q=0.9" ++ ("," ++ "en;q=0.8"))) := by
        simp only [hcut, String.append_assoc]
      rw [if_neg hen, if_neg hen, hparts, listedTags_append h.1, listedTags_append hpart, hweighted,
        unweighted_plain h, hlast]
      rfl

/-- The tags that a context asks for with every request. -/
def requested (o : ContextOptions) : Option (List String) :=
  match (o.toJson.member? "extra_http_headers").bind (·.member? "Accept-Language") with
  | some (.str header) => some (listedTags header)
  | _ => none

theorem requested_eq (o : ContextOptions) : o.requested = some (listedTags (acceptLanguage o.profile.locale)) := rfl

/-! ## Both lists -/

theorem language_ne_of_hyphen {locale tag : String} (h : '-' ∈ tag.toList) : language locale ≠ tag := by
  rintro rfl
  rw [language, String.toList_ofList] at h
  simpa using List.mem_takeWhile_imp h

/-- Without American English the scripts of a page are told what a header says. -/
theorem languages_filter {p : Profile} (hen : language p.locale ≠ "en") :
    p.languages.filter (· ≠ "en-US") =
      [p.locale] ++ (if language p.locale = p.locale then [] else [language p.locale]) ++ ["en"] := by
  have hlanguage : language p.locale ≠ "en-US" := language_ne_of_hyphen (by decide)
  have hlocale : p.locale ≠ "en-US" := by
    intro h
    apply hen
    rw [h]
    decide
  unfold languages
  simp only [if_neg hen]
  by_cases hsame : language p.locale = p.locale
  · rw [if_pos hsame]
    simp [hlocale]
  · rw [if_neg hsame]
    simp [hlocale, hlanguage]

/-- **The scripts of a page are told what the requests ask for** if the locale
is English. Any other locale, written as a tag, leaves American English out of
the requests. -/
theorem languages_agree_iff (o : ContextOptions) :
    ((InitScript.values o.profile).lookup "__LANGUAGES__").bind Json.parse = some (.arr (o.profile.languages.map .str)) ∧
      (o.requested = some o.profile.languages ↔ language o.profile.locale = "en" ∧ IsPlainTag o.profile.locale) ∧
        (language o.profile.locale ≠ "en" → IsPlainTag o.profile.locale →
          o.requested = some (o.profile.languages.filter (· ≠ "en-US"))) := by
  have hmissing (hen : language o.profile.locale ≠ "en") (hplain : IsPlainTag o.profile.locale) :
      o.requested = some (o.profile.languages.filter (· ≠ "en-US")) := by
    rw [requested_eq, listedTags_acceptLanguage hplain, languages_filter hen, if_neg hen]
  refine ⟨?_, ⟨?_, ?_⟩, hmissing⟩
  · have hstorable : (Json.arr (o.profile.languages.map .str)).IsStorable := by
      apply Json.IsStorable.arr
      intro v hv
      rw [List.mem_map] at hv
      obtain ⟨s, _, rfl⟩ := hv
      exact .str s
    have hliteral : (InitScript.values o.profile).lookup "__LANGUAGES__" =
        some (Json.render .spaced (.arr (o.profile.languages.map .str))) := rfl
    rw [hliteral, Option.bind_some]
    exact Json.parse_render (Json.isReadable_styles 0 _ (by simp)) hstorable
  · intro hagree
    have hplain : IsPlainTag o.profile.locale := by
      apply isPlainTag_of_listed
      rw [requested_eq, Option.some.injEq] at hagree
      rw [hagree]
      simp [languages]
    refine ⟨?_, hplain⟩
    by_contra hen
    rw [hmissing hen hplain, Option.some.injEq, List.filter_eq_self] at hagree
    have hamerican : "en-US" ∈ o.profile.languages := by simp [languages, hen]
    simpa using hagree "en-US" hamerican
  · intro ⟨hen, hplain⟩
    rw [requested_eq, listedTags_acceptLanguage hplain, languages, if_pos hen, if_pos hen]

/-- German requests ask for less than the scripts of a page are told. -/
theorem german_languages_differ : ∃ o : ContextOptions, o.profile.locale = "de-DE" ∧
    o.requested = some ["de-DE", "de", "en"] ∧ o.profile.languages = ["de-DE", "de", "en-US", "en"] :=
  ⟨⟨⟨"Mozilla/5.0", ⟨1280, 720⟩, "Europe/Berlin", "de-DE"⟩, ""⟩, by decide⟩

end ContextOptions

end BrowserPilot
