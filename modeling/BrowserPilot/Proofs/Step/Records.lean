import BrowserPilot.Proofs.Step.Fallbacks

/-!
# Records of steps

The record of a step that has been read is read as the same step. What it has
beside the fields of a step, such as the kind of its action, is ignored.
-/

namespace BrowserPilot

open Schema

theorem ErrorPolicy.read_toJson (p : ErrorPolicy) : read p.toJson = .ok p := by
  let m : Json.Members := [("ignore_errors", .bool p.ignoresErrors), ("retry_count", .ofNat p.retries)]
  have hignores : Schema.optional "ignore_errors" false truth m = .ok p.ignoresErrors := optional_eq rfl rfl
  have hretries : Schema.optional "retry_count" 3 count m = .ok p.retries := optional_eq rfl (Codec.count_ofNat p.retries)
  show readFields m = _
  unfold readFields
  rw [hignores, hretries]
  rfl

namespace Step

def dump (s : Step) : Json.Members :=
  [("id", .str s.id), ("ordinal", .ofNat s.ordinal), ("params", s.action.toJson), ("fallbacks", .arr (s.fallbacks.map Json.obj)),
    ("error_policy", s.policy.toJson), ("type", .str s.kind.name)]

theorem ordinal_pos {v : Json} {s : Step} (h : record "ActionStep" readFields v = .ok s) : 1 ≤ s.ordinal := by
  unfold record at h
  split at h
  · obtain ⟨f₁, policy, hf₁, _, rfl⟩ := Checked.ap_ok h
    obtain ⟨f₂, fallbacks, hf₂, _, rfl⟩ := Checked.ap_ok hf₁
    obtain ⟨f₃, action, hf₃, _, rfl⟩ := Checked.ap_ok hf₂
    obtain ⟨f₄, ordinal, hf₄, hordinal, rfl⟩ := Checked.ap_ok hf₃
    obtain ⟨id, _, rfl⟩ := Checked.map_ok hf₄
    obtain ⟨n, hn, rfl⟩ := Checked.map_ok hordinal
    obtain ⟨w, hw⟩ := required_ok hn
    have := wholeFrom_ok hw
    show 1 ≤ n.toNat
    omega
  · cases h

theorem wholeFrom_ordinal {s : Step} (h : 1 ≤ s.ordinal) : wholeFrom 1 (.ofNat s.ordinal) = .ok (s.ordinal : Int) := by
  have h : (1 : Int) ≤ s.ordinal := by omega
  simp only [wholeFrom, Json.ofNat, whole, Except.bind, if_pos h]

section
variable {s : Step} {m : Json.Members} (hm : ∀ name, name ≠ "type" → Json.get? m name = Json.get? s.dump name)
include hm

/-- The kind that a record tells is not read. -/
theorem readFields_dump (hpos : 1 ≤ s.ordinal) : readFields m = .ok s := by
  have hid : required "id" Schema.text m = .ok s.id := required_eq (hm "id" (by decide)) rfl
  have hordinal : required "ordinal" (wholeFrom 1) m = .ok (s.ordinal : Int) :=
    required_eq (hm "ordinal" (by decide)) (wholeFrom_ordinal hpos)
  have haction : required "params" Action.readTagged m = .ok s.action :=
    required_eq (hm "params" (by decide)) s.action.readTagged_toJson
  have hfallbacks : Schema.optional "fallbacks" [] (items object) m = .ok s.fallbacks :=
    optional_eq (hm "fallbacks" (by decide)) (Checked.list_map (g := Json.obj) (fun _ => rfl) 0 s.fallbacks)
  have hpolicy : Schema.optional "error_policy" {} ErrorPolicy.read m = .ok s.policy :=
    optional_eq (hm "error_policy" (by decide)) s.policy.read_toJson
  unfold readFields
  rw [hid, hordinal, haction, hfallbacks, hpolicy]
  rfl

theorem read_dump {v : Json} (h : read v = .ok s) : read (.obj m) = .ok s := by
  obtain ⟨hrecord, hfaults⟩ := read_ok h
  have hfields : record "ActionStep" readFields (.obj m) = .ok s := readFields_dump hm (ordinal_pos hrecord)
  unfold read
  rw [hfields]
  simp only [Except.bind, hfaults]

end

/-- **A step is read from its own record.** Whatever it was read from before,
the record comes to the same step, and that to the same record. What is said
there of its kind does not matter. -/
theorem dump_reads_back {v : Json} {s : Step} (h : read v = .ok s) :
    s.toJson = .obj s.dump ∧ read s.toJson = .ok s ∧ (read s.toJson).map toJson = .ok s.toJson ∧
      ∀ m, (∀ name, name ≠ "type" → Json.get? m name = Json.get? s.dump name) → read (.obj m) = .ok s := by
  have hself : read s.toJson = .ok s := read_dump (fun _ _ => rfl) h
  exact ⟨rfl, hself, by rw [hself]; rfl, fun m hm => read_dump hm h⟩

private def rawGallery : Json :=
  .obj [("id", .str "gallery"), ("ordinal", .num (.ofNat 7)), ("params", .obj [("action", .str "scroll"), ("position", .bool true)]),
    ("fallbacks", .arr [.obj [("position", .str "+0_5.0")]]), ("error_policy", .obj [("ignore_errors", .str "Yes")]),
    ("type", .arr []), ("note", .null)]

private def gallery : Step :=
  ⟨"gallery", 7, .scroll (.pixels 1) .down, [[("position", .str "+0_5.0")]], ⟨true, 3⟩⟩

/-- A step written in many ways has one record, and its fallback stays as it was written. -/
theorem dump_reads_back_gallery : read rawGallery = .ok gallery ∧
    gallery.toJson = .obj [("id", .str "gallery"), ("ordinal", .int 7),
      ("params", .obj [("action", .str "scroll"), ("position", .int 1), ("direction", .str "down")]),
      ("fallbacks", .arr [.obj [("position", .str "+0_5.0")]]),
      ("error_policy", .obj [("ignore_errors", .bool true), ("retry_count", .int 3)]), ("type", .str "scroll")] ∧
    read gallery.toJson = .ok gallery ∧ read (.obj (Json.put "type" (.str "click") gallery.dump)) = .ok gallery := by
  have hread : read rawGallery = .ok gallery := by rfl
  obtain ⟨_, hback, _, htype⟩ := dump_reads_back hread
  refine ⟨hread, rfl, hback, htype _ fun name hname => ?_⟩
  rw [Json.get?_put, if_neg hname]

end Step

end BrowserPilot
