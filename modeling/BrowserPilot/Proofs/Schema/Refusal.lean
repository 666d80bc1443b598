import BrowserPilot.Step.Basic

/-!
# What a failed reading tells

A reading that fails says why: there is a problem at least. This holds of the
readers of single values and is kept by all that puts them together.
-/

namespace BrowserPilot.Schema

variable {α β : Type}

def Checked.Explains (x : Checked α) : Prop := x ≠ .error []

namespace Checked

theorem explains_ok (a : α) : Explains (.ok a) := nofun

theorem explains_fail (c : Complaint) : Explains (fail c : Checked α) := nofun

theorem Explains.map {x : Checked α} (h : x.Explains) (f : α → β) : Explains (x.map f) := by
  cases x with
  | ok a => exact explains_ok _
  | error p =>
    intro he
    cases he
    exact h rfl

theorem Explains.inside {x : Checked α} (h : x.Explains) (name : String) : (x.inside name).Explains := by
  cases x with
  | ok a => exact explains_ok _
  | error p =>
    intro he
    rw [List.map_eq_nil_iff.mp (Except.error.inj he)] at h
    exact h rfl

theorem Explains.bind {x : Checked α} (h : x.Explains) {f : α → Checked β} (hf : ∀ a, (f a).Explains) :
    Explains (x.bind f) := by
  cases x with
  | ok a => exact hf a
  | error p =>
    intro he
    cases he
    exact h rfl

theorem Explains.ap {f : Checked (α → β)} {x : Checked α} (hf : f.Explains) (hx : x.Explains) : (f.ap x).Explains := by
  intro he
  cases f with
  | ok f =>
    cases x with
    | ok a => cases he
    | error q =>
      cases he
      exact hx rfl
  | error p =>
    cases x with
    | ok a =>
      cases he
      exact hf rfl
    | error q =>
      rw [(List.append_eq_nil_iff.mp (Except.error.inj he)).1] at hf
      exact hf rfl

theorem Explains.alsoWith {x : Checked α} (h : x.Explains) (more : List Problem) : (x.alsoWith more).Explains := by
  intro he
  cases x with
  | ok a => cases more <;> cases he
  | error p =>
    cases more with
    | nil =>
      rw [(List.append_eq_nil_iff.mp (Except.error.inj he)).1] at h
      exact h rfl
    | cons q more => exact List.cons_ne_nil q more (List.append_eq_nil_iff.mp (Except.error.inj he)).2

end Checked

open Checked

/-! ## Readers of simple values -/

theorem text_explains (v : Json) : (text v).Explains := by
  unfold text
  split
  · exact explains_ok _
  · exact explains_fail _

theorem wholeOfText_explains (s : String) : (wholeOfText s).Explains := by
  unfold wholeOfText
  dsimp only
  split
  · exact explains_fail _
  · split
    · split
      · exact explains_ok _
      · exact explains_fail _
    · split
      · exact explains_ok _
      · exact explains_fail _
    · exact explains_fail _

theorem wholeOfNumber_explains (x : Binary64) : (wholeOfNumber x).Explains := by
  unfold wholeOfNumber
  split
  · exact explains_fail _
  · split
    · exact explains_fail _
    · split
      · exact explains_ok _
      · exact explains_fail _

theorem whole_explains (v : Json) : (whole v).Explains := by
  cases v with
  | int n => exact explains_ok _
  | bool b => exact explains_ok _
  | num x => exact wholeOfNumber_explains x
  | str s => exact wholeOfText_explains s
  | null | arr _ | obj _ => exact explains_fail _

theorem count_explains (v : Json) : (count v).Explains := by
  refine Explains.map ((whole_explains v).bind fun n => ?_) Int.toNat
  split
  · exact explains_ok _
  · exact explains_fail _

theorem truthOfWhole_explains (n : Int) : (truthOfWhole n).Explains := by
  unfold truthOfWhole
  split
  · exact explains_ok _
  · split
    · exact explains_ok _
    · split <;> exact explains_fail _

theorem truth_explains (v : Json) : (truth v).Explains := by
  cases v with
  | bool b => exact explains_ok _
  | int n => exact truthOfWhole_explains n
  | num x =>
    rw [truth]
    split
    · exact truthOfWhole_explains _
    · exact explains_fail _
  | str s =>
    rw [truth]
    split
    · exact explains_ok _
    · exact explains_fail _
  | null | arr _ | obj _ => exact explains_fail _

theorem word_explains (choices : List (String × α)) (v : Json) : (word choices v).Explains := by
  unfold word
  split
  · split
    · exact explains_ok _
    · exact explains_fail _
  · exact explains_fail _

/-! ## Records -/

theorem optional_explains (field : String) (otherwise : α) {r : Reader α} (hr : ∀ v, (r v).Explains) (m : Json.Members) :
    (optional field otherwise r m).Explains := by
  unfold optional
  split
  · exact (hr _).inside field
  · exact explains_ok _

theorem closedRecord_explains (model : String) (known : List String) {fields : Json.Members → Checked α}
    (h : ∀ m, (fields m).Explains) (v : Json) : (closedRecord model known fields v).Explains := by
  unfold closedRecord
  split
  · exact (h _).alsoWith _
  · exact explains_fail _

end BrowserPilot.Schema

namespace BrowserPilot.Action

open Schema Checked

theorem readKind_explains (k : ActionKind) (m : Json.Members) : (readKind k m).Explains := by
  unfold readKind
  split
  · exact explains_ok _
  · split
    · exact explains_ok _
    · nofun
  · nofun

theorem readTarget_explains (v : Json) : (readTarget v).Explains := by
  unfold readTarget
  split
  · exact explains_ok _
  · next p hp =>
    have hne : p ≠ [] := fun he => word_explains _ v (hp.trans (congrArg _ he))
    split
    · exact explains_ok _
    · intro he
      exact hne (List.map_eq_nil_iff.mp (List.append_eq_nil_iff.mp (Except.error.inj he)).1)

theorem readFields_explains (k : ActionKind) (m : Json.Members) : (readFields k m).Explains := by
  have hstart {β : Type} (f : β) : Explains ((readKind k m).map fun _ => f) := (readKind_explains k m).map _
  have htext (field otherwise : String) : (optional field otherwise text m).Explains := optional_explains _ _ text_explains m
  unfold readFields
  cases k with
  | navigate | click | extract => exact (hstart _).ap (htext _ _)
  | type => exact ((hstart _).ap (htext _ _)).ap (htext _ _)
  | wait =>
    have hmode := optional_explains "mode" WaitMode.time (fun v => word_explains _ v) (r := readMode) m
    have hcount := optional_explains "duration_ms" 0 count_explains m
    exact (((hstart _).ap hmode).ap hcount).ap (htext _ _)
  | screenshot => exact (hstart _).ap (optional_explains _ _ truth_explains m)
  | scroll =>
    have htarget := optional_explains "position" ScrollTarget.bottom readTarget_explains m
    have hdirection := optional_explains "direction" ScrollDirection.down (fun v => word_explains _ v) (r := readDirection) m
    exact ((hstart _).ap htarget).ap hdirection

/-- **A refused action comes with a problem.** -/
theorem read_explains (k : ActionKind) (v : Json) : (read k v).Explains :=
  closedRecord_explains _ _ (readFields_explains k) v

end BrowserPilot.Action
