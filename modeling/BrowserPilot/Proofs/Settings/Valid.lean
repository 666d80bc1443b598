import BrowserPilot.Browser.Pacer
import BrowserPilot.Proofs.Numeric.Order
import BrowserPilot.Proofs.Schema.Inversion
import BrowserPilot.Settings.Basic

/-!
# Valid settings

Settings that are read are within their bounds, and within them every part of a
run that they describe can be built.
-/

namespace BrowserPilot

/-! ## Validity -/

open Schema

structure Settings.IsValid (s : Settings) : Prop where
  timeout : 0 < s.browser.timeoutMs
  scale : s.timing.scale.IsNonneg
  baseDelay : s.retry.baseDelay.IsNonneg
  maxDelay : s.retry.maxDelay.IsNonneg
  grace : s.monitor.grace.IsNonneg

/-! ## Reading -/

namespace Schema

theorem numberFrom_ok {v : Json} {x : Binary64} (h : numberFrom 0 v = .ok x) : x.IsNonneg := by
  obtain ⟨y, _, hy⟩ := Checked.bind_ok h
  by_cases hle : (Binary64.ofInt 0).le y = true
  · rw [if_pos hle] at hy
    cases hy
    exact hle
  · rw [if_neg hle] at hy
    cases hy

theorem section_ok {α : Type} {name : String} {otherwise : α} {refusal : Option String} {r : Reader α} {m : Json.Members}
    {a : α} {P : α → Prop} (h : optional name otherwise (Settings.guarded refusal r) m = .ok a) (ho : P otherwise)
    (hr : ∀ v b, r v = .ok b → P b) : P a := by
  rcases optional_ok h with rfl | ⟨v, hv⟩
  · exact ho
  · unfold Settings.guarded at hv
    split at hv
    · split at hv
      · cases hv
      · exact hr _ _ hv
    · exact hr _ _ hv

end Schema

namespace Settings

theorem browser_ok {v : Json} {s : BrowserSettings} (h : BrowserSettings.read v = .ok s) : 0 < s.timeoutMs := by
  obtain ⟨m, -, h⟩ := closedRecord_ok h
  obtain ⟨f₁, x₁, h₁, -, rfl⟩ := Checked.ap_ok h
  obtain ⟨f₂, x₂, h₂, -, rfl⟩ := Checked.ap_ok h₁
  obtain ⟨f₃, x₃, h₃, ht, rfl⟩ := Checked.ap_ok h₂
  obtain ⟨b, -, rfl⟩ := Checked.map_ok h₃
  exact field_ok (P := fun n => 0 < n) ht (by decide) fun _ _ => positive_ok

theorem timing_ok {v : Json} {s : TimingSettings} (h : TimingSettings.read v = .ok s) :
    s.scale.IsNonneg := by
  obtain ⟨m, -, h⟩ := closedRecord_ok h
  obtain ⟨x, hx, rfl⟩ := Checked.map_ok h
  exact field_ok (P := Binary64.IsNonneg) hx (Binary64.isNonneg_ofNat _) fun _ _ => numberFrom_ok

theorem retry_ok {v : Json} {s : RetrySettings} (h : RetrySettings.read v = .ok s) :
    s.baseDelay.IsNonneg ∧ s.maxDelay.IsNonneg := by
  obtain ⟨m, -, h⟩ := closedRecord_ok h
  obtain ⟨f₁, x₁, h₁, hmax, rfl⟩ := Checked.ap_ok h
  obtain ⟨f₂, x₂, h₂, hbase, rfl⟩ := Checked.ap_ok h₁
  obtain ⟨n, -, rfl⟩ := Checked.map_ok h₂
  exact ⟨field_ok (P := Binary64.IsNonneg) hbase (Binary64.isNonneg_ofNat _) fun _ _ => numberFrom_ok,
    field_ok (P := Binary64.IsNonneg) hmax (Binary64.isNonneg_ofNat _) fun _ _ => numberFrom_ok⟩

theorem monitor_ok {v : Json} {s : MonitorSettings} (h : MonitorSettings.read v = .ok s) :
    s.grace.IsNonneg := by
  obtain ⟨m, -, h⟩ := closedRecord_ok h
  obtain ⟨f₁, x₁, h₁, hgrace, rfl⟩ := Checked.ap_ok h
  obtain ⟨b, -, rfl⟩ := Checked.map_ok h₁
  exact field_ok (P := Binary64.IsNonneg) hgrace (Binary64.isNonneg_ofNat _) fun _ _ => numberFrom_ok

/-- **Settings that are read are valid.** -/
theorem read_isValid {root : Path} {refusal : String → Option String} {v : Json} {s : Settings}
    (h : read root refusal v = .ok s) : s.IsValid := by
  have hm : ∃ m, v = .obj m := by
    cases v with
    | obj m => exact ⟨m, rfl⟩
    | _ => cases h
  obtain ⟨m, rfl⟩ := hm
  obtain ⟨f₁, compiler, h₁, -, rfl⟩ := Checked.ap_ok h
  obtain ⟨f₂, monitor, h₂, hmonitor, rfl⟩ := Checked.ap_ok h₁
  obtain ⟨f₃, retry, h₃, hretry, rfl⟩ := Checked.ap_ok h₂
  obtain ⟨f₄, timing, h₄, htiming, rfl⟩ := Checked.ap_ok h₃
  obtain ⟨f₅, stealth, h₅, -, rfl⟩ := Checked.ap_ok h₄
  obtain ⟨f₆, browser, h₆, hbrowser, rfl⟩ := Checked.ap_ok h₅
  obtain ⟨f₇, debug, h₇, -, rfl⟩ := Checked.ap_ok h₆
  obtain ⟨f₈, root', h₈, -, rfl⟩ := Checked.ap_ok h₇
  obtain ⟨env, -, rfl⟩ := Checked.map_ok h₈
  have hr := section_ok (P := fun s : RetrySettings =>
    s.baseDelay.IsNonneg ∧ s.maxDelay.IsNonneg) hretry
    ⟨Binary64.isNonneg_ofNat 1, Binary64.isNonneg_ofNat 30⟩
    fun _ _ => retry_ok
  exact {
    timeout := section_ok (P := fun s : BrowserSettings => 0 < s.timeoutMs) hbrowser (by decide) fun _ _ => browser_ok
    scale := section_ok (P := fun s : TimingSettings => s.scale.IsNonneg) htiming (Binary64.isNonneg_ofNat 1)
      fun _ _ => timing_ok
    baseDelay := hr.1
    maxDelay := hr.2
    grace := section_ok (P := fun s : MonitorSettings => s.grace.IsNonneg) hmonitor (Binary64.isNonneg_ofNat 5)
      fun _ _ => monitor_ok }

theorem IsValid.resolvePaths {s : Settings} (h : s.IsValid) : s.resolvePaths.IsValid := by
  unfold Settings.resolvePaths
  simp only
  split
  · exact h
  · exact ⟨h.timeout, h.scale, h.baseDelay, h.maxDelay, h.grace⟩

/-! ## What valid settings describe -/

theorem IsValid.pacer {s : Settings} (h : s.IsValid) : Pacer.ofScale s.timing.scale = .ok ⟨s.timing.scale⟩ := by
  unfold Pacer.ofScale
  rw [h.scale.not_lt, if_neg Bool.false_ne_true]

theorem IsValid.strategy {s : Settings} (h : s.IsValid) : ∃ r, s.retry.strategy? = .ok r := by
  have hb : RetryStrategy.isBelow 0 s.retry.baseDelay = false := h.baseDelay.not_lt
  have hm : RetryStrategy.isBelow 0 s.retry.maxDelay = false := h.maxDelay.not_lt
  have hf : RetryStrategy.isBelow 1 (.ofNat 2) = false := by decide +kernel
  unfold RetrySettings.strategy? RetryStrategy.ofName?
  split
  · exact ⟨_, rfl⟩
  · exact ⟨_, by rw [RetryStrategy.exponential?, hb, hm, hf]; rfl⟩
  · exact ⟨_, by rw [RetryStrategy.linear?, hb, hm]; rfl⟩
  · exact ⟨_, by rw [RetryStrategy.adaptive?, hm]; rfl⟩

end Settings

end BrowserPilot
