import BrowserPilot.Proofs.Json.Members
import BrowserPilot.Proofs.Schema.Inversion
import Mathlib.Data.List.Nodup

/-!
# Parameters of actions

Every parameter is read leniently and written in one form, which is read back
as it is. An action is all that its record says, so that it is read from its
own record again.
-/

namespace BrowserPilot

open Schema

/-! ## Values and their raw form -/

/-- A kind of value that is written so that it can be read again. -/
structure Codec (α : Type) where
  read : Reader α
  write : α → Json
  read_write : ∀ a, read (write a) = .ok a

namespace Codec

variable {α : Type}

/-- A raw value in the form in which it is written. -/
def coerce (c : Codec α) (v : Json) : Checked Json := (c.read v).map c.write

theorem coerce_write (c : Codec α) (a : α) : c.coerce (c.write a) = .ok (c.write a) := by rw [coerce, c.read_write]; rfl

theorem count_ofNat (n : Nat) : Schema.count (.ofNat n) = .ok n := by
  have h : (0 : Int) ≤ n := by omega
  simp only [Schema.count, wholeFrom, Json.ofNat, whole, Except.bind, if_pos h, Except.map, Int.toNat_natCast]

theorem optional_written (c : Codec α) {name : String} (otherwise : α) {m : Json.Members} {a : α}
    (h : Json.get? m name = some (c.write a)) : optional name otherwise c.read m = .ok a :=
  optional_eq h (c.read_write a)

def text : Codec String := ⟨Schema.text, .str, fun _ => rfl⟩

def count : Codec Nat := ⟨Schema.count, .ofNat, count_ofNat⟩

def truth : Codec Bool := ⟨Schema.truth, .bool, fun _ => rfl⟩

def mode : Codec WaitMode := ⟨Action.readMode, fun m => .str m.name, fun m => by cases m <;> rfl⟩

def direction : Codec ScrollDirection := ⟨Action.readDirection, fun d => .str d.name, fun d => by cases d <;> rfl⟩

def target : Codec ScrollTarget where
  read := Action.readTarget
  write
    | .bottom => .str "end"
    | .pixels n => .ofNat n
  read_write
    | .bottom => rfl
    | .pixels n => by
      have h : word [("end", ScrollTarget.bottom)] (.ofNat n) = .error [⟨[], .notChoice ["'end'"]⟩] := rfl
      simp only [Action.readTarget, h, count_ofNat]

end Codec

/-! ## The parameters of a kind -/

/-- A parameter of an action, with the raw values that it takes in the form in
which they are written. -/
structure Parameter where
  name : String
  otherwise : Json
  coerce : Json → Checked Json
  coerce_coerced : ∀ {v w}, coerce v = .ok w → coerce w = .ok w
  coerce_otherwise : coerce otherwise = .ok otherwise

namespace Parameter

def of {α : Type} (name : String) (c : Codec α) (otherwise : α) : Parameter where
  name
  otherwise := c.write otherwise
  coerce := c.coerce
  coerce_coerced := fun h => by
    obtain ⟨a, _, rfl⟩ := Checked.map_ok h
    exact c.coerce_write a
  coerce_otherwise := c.coerce_write otherwise

def take (p : Parameter) (m : Json.Members) : Checked Json := optional p.name p.otherwise p.coerce m

theorem take_of {α : Type} {name : String} {c : Codec α} {otherwise a : α} {m : Json.Members}
    (h : optional name otherwise c.read m = .ok a) : (of name c otherwise).take m = .ok (c.write a) := by
  unfold Schema.optional at h
  show Schema.optional name (c.write otherwise) c.coerce m = _
  unfold Schema.optional
  cases hv : Json.get? m name with
  | none =>
    simp only [hv] at h ⊢
    rw [Except.ok.inj h]
  | some v =>
    simp only [hv] at h ⊢
    rw [Codec.coerce, Checked.inside_ok h]
    rfl

variable {p : Parameter} {m : Json.Members} {v w : Json}

theorem coerce_of_take (h : p.take m = .ok w) (hv : Json.get? m p.name = some v) : p.coerce v = .ok w := by
  unfold take Schema.optional at h
  rw [hv] at h
  exact Checked.inside_ok h

theorem coerce_taken (h : p.take m = .ok w) : p.coerce w = .ok w := by
  unfold take at h
  rcases optional_ok h with rfl | ⟨v, hv⟩
  · exact p.coerce_otherwise
  · exact p.coerce_coerced hv

end Parameter

def ActionKind.parameters : ActionKind → List Parameter
  | .navigate => [.of "url" .text ""]
  | .click => [.of "selector" .text ""]
  | .type => [.of "selector" .text "", .of "text" .text ""]
  | .wait => [.of "mode" .mode .time, .of "duration_ms" .count 0, .of "selector" .text ""]
  | .extract => [.of "selector" .text ""]
  | .screenshot => [.of "full_page" .truth false]
  | .scroll => [.of "position" .target .bottom, .of "direction" .direction .down]

namespace Action

theorem names_parameters (k : ActionKind) : k.parameters.map Parameter.name = parameterNames k := by cases k <;> rfl

theorem parameters_names (a : Action) : a.parameters.map (·.1) = parameterNames a.kind := by cases a <;> rfl

theorem exists_parameter {k : ActionKind} {name : String} (h : name ∈ parameterNames k) : ∃ p ∈ k.parameters, p.name = name := by
  rw [← names_parameters] at h
  exact List.mem_map.mp h

theorem eq_of_name {k : ActionKind} {p p' : Parameter} (hp : p ∈ k.parameters) (hp' : p' ∈ k.parameters) (h : p.name = p'.name) :
    p = p' := by
  have hnodup : (k.parameters.map Parameter.name).Nodup := by
    rw [names_parameters]
    cases k <;> decide
  exact List.inj_on_of_nodup_map hnodup hp hp' h

theorem get?_parameters_none {a : Action} {name : String} (h : name ∉ parameterNames a.kind) :
    Json.get? a.parameters name = none :=
  Json.get?_eq_none (a.parameters_names.symm ▸ h)

/-- A record of an action has what the record that it was read from gives to
each parameter. -/
theorem readFields_takes {k : ActionKind} {m : Json.Members} {a : Action} (h : readFields k m = .ok a) :
    ∀ p ∈ k.parameters, ∃ w, p.take m = .ok w ∧ Json.get? a.parameters p.name = some w := by
  intro p hp
  cases k with
  | navigate | click | extract | screenshot =>
    obtain ⟨f, x, hf, hx, rfl⟩ := Checked.ap_ok h
    obtain ⟨u, -, rfl⟩ := Checked.map_ok hf
    rcases List.mem_singleton.mp hp with rfl
    exact ⟨_, Parameter.take_of hx, rfl⟩
  | type | scroll =>
    obtain ⟨f₁, y, hf₁, hy, rfl⟩ := Checked.ap_ok h
    obtain ⟨f₂, x, hf₂, hx, rfl⟩ := Checked.ap_ok hf₁
    obtain ⟨u, -, rfl⟩ := Checked.map_ok hf₂
    simp only [ActionKind.parameters, List.mem_cons, List.not_mem_nil, or_false] at hp
    rcases hp with rfl | rfl
    · exact ⟨_, Parameter.take_of hx, rfl⟩
    · exact ⟨_, Parameter.take_of hy, rfl⟩
  | wait =>
    obtain ⟨f₁, z, hf₁, hz, rfl⟩ := Checked.ap_ok h
    obtain ⟨f₂, y, hf₂, hy, rfl⟩ := Checked.ap_ok hf₁
    obtain ⟨f₃, x, hf₃, hx, rfl⟩ := Checked.ap_ok hf₂
    obtain ⟨u, -, rfl⟩ := Checked.map_ok hf₃
    simp only [ActionKind.parameters, List.mem_cons, List.not_mem_nil, or_false] at hp
    rcases hp with rfl | rfl | rfl
    · exact ⟨_, Parameter.take_of hx, rfl⟩
    · exact ⟨_, Parameter.take_of hy, rfl⟩
    · exact ⟨_, Parameter.take_of hz, rfl⟩

/-! ## Records of actions -/

theorem readFields_members (a : Action) : readFields a.kind a.members = .ok a := by
  cases a with
  | navigate | click | extract | type | screenshot => rfl
  | wait mode ms selector =>
    have hmode : Schema.optional "mode" .time readMode (wait mode ms selector).members = .ok mode :=
      Codec.mode.optional_written _ rfl
    have hms : Schema.optional "duration_ms" 0 count (wait mode ms selector).members = .ok ms :=
      Codec.count.optional_written _ rfl
    simp only [readFields, kind, hmode, hms]
    rfl
  | scroll target direction =>
    have htarget : Schema.optional "position" .bottom readTarget (scroll target direction).members = .ok target :=
      Codec.target.optional_written _ rfl
    have hdirection : Schema.optional "direction" .down readDirection (scroll target direction).members = .ok direction :=
      Codec.direction.optional_written _ rfl
    simp only [readFields, kind, htarget, hdirection]
    rfl

/-- **An action is read from its own record.** -/
theorem read_toJson (a : Action) : read a.kind a.toJson = .ok a := by
  have hknown : unexpected ("action" :: parameterNames a.kind) a.members = [] := by cases a <;> rfl
  show Checked.alsoWith (readFields a.kind a.members) (unexpected ("action" :: parameterNames a.kind) a.members) = _
  rw [readFields_members, hknown]
  rfl

theorem readTagged_toJson (a : Action) : readTagged a.toJson = .ok a := by
  have hname : ActionKind.ofName? a.kind.name = some a.kind := by cases a.kind <;> rfl
  have hread := a.read_toJson
  unfold toJson members at *
  simp only [readTagged, Json.get?_cons, if_true, hname, hread]
  rfl

theorem parameters_coerced (a : Action) {p : Parameter} (hp : p ∈ a.kind.parameters) :
    ∃ w, Json.get? a.parameters p.name = some w ∧ p.coerce w = .ok w := by
  obtain ⟨w, htake, hw⟩ := readFields_takes a.readFields_members p hp
  exact ⟨w, hw, Parameter.coerce_taken htake⟩

theorem readFields_congr {m m' : Json.Members} (h : ∀ name, Json.get? m name = Json.get? m' name) (k : ActionKind) :
    readFields k m = readFields k m' := by
  unfold readFields readKind Schema.optional
  simp only [h]

/-- An action is known by its kind and its parameters. -/
theorem eq_of_parameters {a b : Action} (hk : a.kind = b.kind)
    (h : ∀ name, Json.get? a.parameters name = Json.get? b.parameters name) : a = b := by
  have hmembers (name : String) : Json.get? a.members name = Json.get? b.members name := by
    rw [members, members, Json.get?_cons, Json.get?_cons, hk, h]
  have hread := a.readFields_members
  rw [readFields_congr hmembers, hk, b.readFields_members] at hread
  exact (Except.ok.inj hread).symm

end Action

end BrowserPilot
