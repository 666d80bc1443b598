import BrowserPilot.Settings.Issues
import Mathlib.Data.List.Basic

/-!
# What a check of settings reports

As long as every proxy address can be read, a check reports what is wrong and
nothing else: each address that is not that of a proxy once, in order. An
address that is refused as a whole ends the check, and there is no report at all.
-/

namespace BrowserPilot.Settings

/-! ## What can be wrong -/

def IsAddress (url : String) : Prop := ∃ a, Address.ofString url = .ok a

/-- Reads as an address with one of the schemes of proxies and a host. -/
def IsProxy (url : String) : Prop :=
  ∃ a, Address.ofString url = .ok a ∧ a.scheme ∈ ["http", "https", "socks5"] ∧ a.host ≠ ""

theorem isProxy_iff {url : String} {a : Address} (h : Address.ofString url = .ok a) :
    IsProxy url ↔ a.isProxy = true := by
  simp only [IsProxy, h, Except.ok.injEq, Address.isProxy, Bool.and_eq_true, List.contains_iff_mem, Bool.not_eq_true',
    String.isEmpty_eq_false_iff]
  exact ⟨fun ⟨_, heq, ha⟩ => heq ▸ ha, fun ha => ⟨a, rfl, ha⟩⟩

instance (url : String) : Decidable (IsProxy url) :=
  match h : Address.ofString url with
  | .ok _ => decidable_of_iff _ (isProxy_iff h).symm
  | .error _ => .isFalse fun ⟨_, ha, _⟩ => nomatch h.symm.trans ha

/-- There are waits, and the longest is below the first. -/
def DelaysInverted (s : Settings) : Prop :=
  s.retry.strategy ≠ .immediate ∧ s.retry.maxDelay.lt s.retry.baseDelay = true

def VideosIntoFile (isFile : String → Bool) (s : Settings) : Prop :=
  s.browser.videoDirectory ≠ "" ∧ isFile s.browser.videoDirectory = true

def Issue.Holds (isFile : String → Bool) (s : Settings) : Issue → Prop
  | delaysInverted maxDelay baseDelay =>
    s.DelaysInverted ∧ maxDelay = s.retry.maxDelay ∧ baseDelay = s.retry.baseDelay
  | unknownRotation rotation => s.stealth.rotation ∉ rotations ∧ rotation = s.stealth.rotation
  | notAProxy url => url ∈ s.stealth.proxyUrls ∧ ¬ IsProxy url
  | videoDirectoryIsFile path => s.VideosIntoFile isFile ∧ path = s.browser.videoDirectory

def Issue.url? : Issue → Option String
  | notAProxy url => some url
  | _ => none

/-! ## Proxies -/

theorem proxyIssues_eq {urls : List String} (h : ∀ url ∈ urls, IsAddress url) :
    proxyIssues urls = .ok ((urls.filter fun url => ¬ IsProxy url).map .notAProxy) := by
  induction urls with
  | nil => rfl
  | cons url urls ih =>
    obtain ⟨a, ha⟩ := h url (List.mem_cons_self ..)
    have hrest := ih fun u hu => h u (List.mem_cons_of_mem _ hu)
    rw [proxyIssues, ha, hrest]
    by_cases hp : IsProxy url
    · simp [hp, (isProxy_iff ha).mp hp, bind, Except.bind]
    · have hp' : a.isProxy = false := by rwa [isProxy_iff ha, Bool.not_eq_true] at hp
      simp [hp, hp', bind, Except.bind]

def FirstRefused (urls : List String) (url : String) : Prop :=
  ∃ before after, urls = before ++ url :: after ∧ (∀ u ∈ before, IsAddress u) ∧ ¬ IsAddress url

theorem proxyIssues_refused {urls : List String} {url : String} {r : Address.Refusal} (h : FirstRefused urls url)
    (hurl : Address.ofString url = .error r) : proxyIssues urls = .error r := by
  obtain ⟨before, after, rfl, hbefore, -⟩ := h
  induction before with
  | nil =>
    rw [List.nil_append, proxyIssues, hurl]
    rfl
  | cons u before ih =>
    obtain ⟨a, ha⟩ := hbefore u (List.mem_cons_self ..)
    rw [List.cons_append, proxyIssues, ha, ih fun u hu => hbefore u (List.mem_cons_of_mem _ hu)]
    rfl

theorem isAddress_or_firstRefused (urls : List String) :
    (∀ url ∈ urls, IsAddress url) ∨ ∃ url r, FirstRefused urls url ∧ Address.ofString url = .error r := by
  induction urls with
  | nil => exact .inl (List.forall_mem_nil _)
  | cons url urls ih =>
    cases hurl : Address.ofString url with
    | error r => exact .inr ⟨url, r, ⟨[], urls, rfl, List.forall_mem_nil _, fun ⟨a, ha⟩ => nomatch hurl.symm.trans ha⟩, hurl⟩
    | ok a =>
      rcases ih with hall | ⟨u, r, ⟨before, after, rfl, hbefore, hu⟩, hr⟩
      · exact .inl (List.forall_mem_cons.mpr ⟨⟨a, hurl⟩, hall⟩)
      · exact .inr ⟨u, r, ⟨url :: before, after, rfl, List.forall_mem_cons.mpr ⟨⟨a, hurl⟩, hbefore⟩, hu⟩, hr⟩

/-! ## The whole report -/

section
variable {isFile : String → Bool} {s : Settings}

theorem issues_eq (h : ∀ url ∈ s.stealth.proxyUrls, IsAddress url) :
    s.issues isFile = .ok (
      (if s.retry.strategy ≠ .immediate ∧ s.retry.maxDelay.lt s.retry.baseDelay then
        [.delaysInverted s.retry.maxDelay s.retry.baseDelay] else []) ++
      (if rotations.contains s.stealth.rotation then [] else [.unknownRotation s.stealth.rotation]) ++
      (s.stealth.proxyUrls.filter fun url => ¬ IsProxy url).map .notAProxy ++
      if !s.browser.videoDirectory.isEmpty && isFile s.browser.videoDirectory then
        [.videoDirectoryIsFile s.browser.videoDirectory] else []) := by
  rw [issues, proxyIssues_eq h]
  rfl

theorem issues_refused {r : Address.Refusal} (h : proxyIssues s.stealth.proxyUrls = .error r) :
    s.issues isFile = .error r := by
  rw [issues, h]
  rfl

theorem mem_issues (h : ∀ url ∈ s.stealth.proxyUrls, IsAddress url) {l : List Issue} (hl : s.issues isFile = .ok l)
    (i : Issue) : i ∈ l ↔ i.Holds isFile s := by
  rw [issues_eq h] at hl
  cases hl
  cases i <;> simp [Issue.Holds, DelaysInverted, VideosIntoFile]

theorem issues_eq_nil_iff (h : ∀ url ∈ s.stealth.proxyUrls, IsAddress url) {l : List Issue}
    (hl : s.issues isFile = .ok l) :
    l = [] ↔ ¬ s.DelaysInverted ∧ s.stealth.rotation ∈ rotations ∧ (∀ url ∈ s.stealth.proxyUrls, IsProxy url) ∧
      ¬ s.VideosIntoFile isFile := by
  rw [issues_eq h] at hl
  cases hl
  simp [DelaysInverted, VideosIntoFile]

theorem issues_urls (h : ∀ url ∈ s.stealth.proxyUrls, IsAddress url) {l : List Issue} (hl : s.issues isFile = .ok l) :
    l.filterMap Issue.url? = s.stealth.proxyUrls.filter fun url => ¬ IsProxy url := by
  rw [issues_eq h] at hl
  cases hl
  simp [List.filterMap_cons, Function.comp_def, Issue.url?, apply_ite (List.filterMap _)]

end

end BrowserPilot.Settings
