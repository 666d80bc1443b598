import BrowserPilot.Proofs.Toml.Names
import BrowserPilot.Settings.Layers

/-!
# The rank of layers

A field of a section has the value of the highest layer that gives it one: that
of the explicit values, else of the local document, else of the document of the
environment, else of the one for everyone. A lower layer only fills in what
those above it leave open.
-/

namespace BrowserPilot.Settings

open Json (Members get? put override IsNamed)

/-! ## One layer over another -/

/-- What a value becomes over what is there. -/
def above (old : Option Json) (new : Json) : Json :=
  match old, new with
  | some (.obj old), .obj new => .obj (override old new)
  | _, v => v

section
variable {m layer : Members} {name field : String}

theorem putLayer_eq (m layer : Members) :
    putLayer m layer = layer.foldl (fun m kv => put kv.1 (above (get? m kv.1) kv.2) m) m := by
  unfold putLayer
  congr
  funext m kv
  unfold above
  split <;> simp_all

theorem above_plain {v : Json} (h : ∀ table, v ≠ .obj table) (old : Option Json) : above old v = v := by
  unfold above
  split
  · exact absurd rfl (h _)
  · rfl

theorem above_absent {old : Option Json} (h : ∀ below, old ≠ some (.obj below)) (v : Json) : above old v = v := by
  unfold above
  split
  · exact absurd rfl (h _)
  · rfl

theorem above_table (old : Option Json) (table : Members) : ∃ t, above old (.obj table) = .obj t := by
  unfold above
  split
  · exact ⟨_, rfl⟩
  · exact ⟨_, rfl⟩

theorem get?_putLayer (h : (layer.map (·.1)).Nodup) (m : Members) (name : String) :
    get? (putLayer m layer) name = ((get? layer name).map (above (get? m name))).or (get? m name) := by
  rw [putLayer_eq]
  induction layer generalizing m with
  | nil => rfl
  | cons kv layer ih =>
    rw [List.map_cons, List.nodup_cons] at h
    rw [List.foldl_cons, ih h.2, Json.get?_put, Json.get?_cons]
    by_cases hk : name = kv.1
    · subst hk
      simp [Json.get?_eq_none h.1]
    · simp [hk]

theorem above_above {v : Json} (h : v.IsNamed) (old : Option Json) : above (some (above old v)) v = above old v := by
  by_cases htable : ∃ table, v = .obj table
  · obtain ⟨table, rfl⟩ := htable
    by_cases hold : ∃ below, old = some (.obj below)
    · obtain ⟨below, rfl⟩ := hold
      exact congrArg Json.obj (Json.override_override h.nodup below)
    · rw [above_absent fun below heq => hold ⟨below, heq⟩]
      exact congrArg Json.obj (Json.override_same fun kv hkv => Json.get?_of_mem h.nodup hkv)
  · have hplain : ∀ table, v ≠ .obj table := fun table heq => htable ⟨table, heq⟩
    rw [above_plain hplain, above_plain hplain]

theorem putLayer_putLayer (h : IsNamed (.obj layer)) (m : Members) :
    putLayer (putLayer m layer) layer = putLayer m layer := by
  have hsame : ∀ kv ∈ layer,
      put kv.1 (above (get? (putLayer m layer) kv.1) kv.2) (putLayer m layer) = putLayer m layer := by
    intro kv hkv
    have hget : get? (putLayer m layer) kv.1 = some (above (get? m kv.1) kv.2) := by
      rw [get?_putLayer h.nodup, Json.get?_of_mem h.nodup hkv]
      rfl
    apply Json.put_same
    rw [hget, above_above (h.members kv hkv)]
  rw [putLayer_eq (putLayer m layer)]
  generalize putLayer m layer = n at hsame
  clear h
  induction layer with
  | nil => rfl
  | cons kv layer ih =>
    rw [List.foldl_cons, hsame kv (List.mem_cons_self ..)]
    exact ih fun kv hkv => hsame kv (List.mem_cons_of_mem _ hkv)

/-! ## All layers -/

/-- The value of a field of a section, if a layer gives it one. -/
def fieldOf (name field : String) (layer : Members) : Option Json := (get? layer name).bind (·.member? field)

/-- A name that stands for a table in every layer that has it. -/
def OnlyTable (name : String) (layers : List Members) : Prop :=
  ∀ layer ∈ layers, ∀ v ∈ get? layer name, ∃ table, v = .obj table

theorem mergeLayers_snoc (layers : List Members) (layer : Members) :
    mergeLayers (layers ++ [layer]) = putLayer (mergeLayers layers) layer := by
  rw [mergeLayers, List.foldl_append]
  rfl

variable {layers : List Members}

section
variable (hnamed : IsNamed (.obj layer)) (htable : ∀ v ∈ get? layer name, ∃ table, v = .obj table)
  (hbelow : ∀ v ∈ get? m name, ∃ table, v = .obj table)
include hnamed htable hbelow

theorem table_putLayer : ∀ v ∈ get? (putLayer m layer) name, ∃ table, v = .obj table := by
  rw [get?_putLayer hnamed.nodup]
  cases hv : get? layer name with
  | none => exact hbelow
  | some v =>
    obtain ⟨table, rfl⟩ := htable v hv
    rintro w hw
    cases hw
    exact above_table _ table

theorem fieldOf_putLayer (field : String) :
    fieldOf name field (putLayer m layer) = (fieldOf name field layer).or (fieldOf name field m) := by
  unfold fieldOf
  rw [get?_putLayer hnamed.nodup]
  cases hv : get? layer name with
  | none => rfl
  | some v =>
    obtain ⟨table, rfl⟩ := htable v hv
    have htables : (table.map (·.1)).Nodup := (hnamed.get? hv).nodup
    cases hold : get? m name with
    | none => cases hf : get? table field <;> simp [above, Json.member?, hf]
    | some old =>
      obtain ⟨below, rfl⟩ := hbelow old hold
      cases hf : get? table field <;>
        simp [above, Json.member?, Json.get?_override, Json.ofWritten_nodup htables, hf]

end

theorem mergeLayers_section (h : OnlyTable name layers) (hnames : ∀ layer ∈ layers, IsNamed (.obj layer)) :
    (get? (mergeLayers layers) name).isSome = (layers.any fun layer => (get? layer name).isSome) ∧
      ∀ v ∈ get? (mergeLayers layers) name, ∃ table, v = .obj table := by
  induction layers using List.reverseRecOn with
  | nil => exact ⟨rfl, nofun⟩
  | append_singleton layers layer ih =>
    have hnamed := hnames layer (by simp)
    obtain ⟨hsome, hbelow⟩ := ih (fun l hl => h l (by simp [hl])) fun l hl => hnames l (by simp [hl])
    rw [mergeLayers_snoc]
    refine ⟨?_, table_putLayer hnamed (h layer (by simp)) hbelow⟩
    rw [get?_putLayer hnamed.nodup, Option.isSome_or, hsome, List.any_append]
    simp [Bool.or_comm]

/-- A field of a section has the value of the highest layer that gives it one. -/
theorem fieldOf_mergeLayers (h : OnlyTable name layers) (hnames : ∀ layer ∈ layers, IsNamed (.obj layer)) (field : String) :
    fieldOf name field (mergeLayers layers) = layers.reverse.findSome? (fieldOf name field) := by
  induction layers using List.reverseRecOn with
  | nil => rfl
  | append_singleton layers layer ih =>
    have hlower : OnlyTable name layers := fun l hl => h l (by simp [hl])
    have hbelow := mergeLayers_section hlower fun l hl => hnames l (by simp [hl])
    have hfield := ih hlower fun l hl => hnames l (by simp [hl])
    rw [mergeLayers_snoc, fieldOf_putLayer (hnames layer (by simp)) (h layer (by simp)) hbelow.2, hfield,
      List.reverse_append, List.reverse_singleton, List.singleton_append, List.findSome?_cons]
    cases fieldOf name field layer <;> rfl

/-- What is no table in the highest layer that has it comes from there as it is. -/
theorem get?_mergeLayers (hnames : ∀ layer ∈ layers, IsNamed (.obj layer)) (name : String) :
    (layers.reverse.findSome? (get? · name) = none → get? (mergeLayers layers) name = none) ∧
      ∀ v, layers.reverse.findSome? (get? · name) = some v → (∀ table, v ≠ .obj table) →
        get? (mergeLayers layers) name = some v := by
  induction layers using List.reverseRecOn with
  | nil => exact ⟨fun _ => rfl, nofun⟩
  | append_singleton layers layer ih =>
    obtain ⟨hnone, hsome⟩ := ih fun l hl => hnames l (by simp [hl])
    rw [mergeLayers_snoc, get?_putLayer (hnames layer (by simp)).nodup, List.reverse_append, List.reverse_singleton,
      List.singleton_append, List.findSome?_cons]
    cases hv : get? layer name with
    | none => exact ⟨hnone, hsome⟩
    | some w =>
      refine ⟨nofun, fun v heq hplain => ?_⟩
      cases heq
      simp [above_plain hplain]

end

/-! ## The layers of a project -/

theorem document_isNamed {files : String → Option String} {name : String} {m : Members}
    (h : document files name = .ok m) : IsNamed (.obj m) := by
  unfold document at h
  split at h
  · cases h
    exact Json.isNamed_nil
  · cases hparse : Toml.parse _ with
    | error e => rw [hparse] at h; cases h
    | ok m' =>
      rw [hparse] at h
      cases h
      exact Toml.parse_isNamed hparse

def threeDocuments (name : String) : Option String :=
  match name with
  | "settings.default.toml" => some "debug = false\n[retry]\nstrategy = \"linear\"\nbase_delay_sec = 1\n"
  | "settings.dev.toml" => some "[retry]\nbase_delay_sec = 2\n"
  | "settings.local.toml" => some "debug = true\n[timing]\nscale = 0\n"
  | _ => none

theorem document_default : document threeDocuments "default" =
    .ok [("debug", .bool false), ("retry", .obj [("strategy", .str "linear"), ("base_delay_sec", .int 1)])] := by
  decide +kernel

theorem document_dev : document threeDocuments "dev" = .ok [("retry", .obj [("base_delay_sec", .int 2)])] := by
  decide +kernel

theorem document_local : document threeDocuments "local" =
    .ok [("debug", .bool true), ("timing", .obj [("scale", .int 0)])] := by
  decide +kernel

end BrowserPilot.Settings
