import BrowserPilot.Step.Basic

/-!
# What a successful reading tells

A record that was read has all its fields read, each by the reader of its
field. An action that was read is of the kind it was read for.
-/

namespace BrowserPilot.Schema

variable {α β : Type}

theorem Checked.ap_ok {f : Checked (α → β)} {x : Checked α} {b : β} (h : f.ap x = .ok b) :
    ∃ g a, f = .ok g ∧ x = .ok a ∧ b = g a := by
  unfold Checked.ap at h
  cases f with
  | error p => cases x <;> cases h
  | ok g =>
    cases x with
    | error q => cases h
    | ok a => exact ⟨g, a, rfl, rfl, (Except.ok.inj h).symm⟩

theorem Checked.map_ok {x : Checked α} {f : α → β} {b : β} (h : x.map f = .ok b) : ∃ a, x = .ok a ∧ b = f a := by
  cases x with
  | error p => cases h
  | ok a => exact ⟨a, rfl, (Except.ok.inj h).symm⟩

theorem Checked.bind_ok {x : Checked α} {f : α → Checked β} {b : β} (h : x.bind f = .ok b) :
    ∃ a, x = .ok a ∧ f a = .ok b := by
  cases x with
  | error p => cases h
  | ok a => exact ⟨a, rfl, h⟩

theorem Checked.inside_ok {name : String} {x : Checked α} {a : α} (h : x.inside name = .ok a) : x = .ok a := by
  cases x with
  | error p => cases h
  | ok b => exact h

theorem optional_ok {field : String} {otherwise : α} {r : Reader α} {members : Json.Members} {a : α}
    (h : optional field otherwise r members = .ok a) : a = otherwise ∨ ∃ v, r v = .ok a := by
  unfold optional at h
  cases hv : Json.get? members field with
  | none =>
    rw [hv] at h
    exact .inl (Except.ok.inj h).symm
  | some v =>
    rw [hv] at h
    exact .inr ⟨v, Checked.inside_ok h⟩

theorem optional_eq {field : String} {otherwise : α} {r : Reader α} {members : Json.Members} {v : Json} {a : α}
    (hv : Json.get? members field = some v) (hr : r v = .ok a) : optional field otherwise r members = .ok a := by
  unfold optional
  simp only [hv, hr]
  rfl

theorem required_ok {field : String} {r : Reader α} {members : Json.Members} {a : α} (h : required field r members = .ok a) :
    ∃ v, r v = .ok a := by
  unfold required at h
  split at h
  · exact ⟨_, Checked.inside_ok h⟩
  · cases h

theorem required_eq {field : String} {r : Reader α} {members : Json.Members} {v : Json} {a : α}
    (hv : Json.get? members field = some v) (hr : r v = .ok a) : required field r members = .ok a := by
  unfold required
  simp only [hv, hr]
  rfl

theorem wholeFrom_ok {bound n : Int} {v : Json} (h : wholeFrom bound v = .ok n) : bound ≤ n := by
  obtain ⟨k, _, hk⟩ := Checked.bind_ok h
  split at hk
  · next hle =>
    cases hk
    exact hle
  · cases hk

theorem positive_ok {v : Json} {n : Nat} (h : positive v = .ok n) : 0 < n := by
  obtain ⟨k, _, hk⟩ := Checked.bind_ok h
  by_cases hpos : 0 < k
  · rw [if_pos hpos] at hk
    cases hk
    omega
  · rw [if_neg hpos] at hk
    cases hk

theorem field_ok {α : Type} {name : String} {otherwise : α} {r : Reader α} {m : Json.Members} {a : α} {P : α → Prop}
    (h : optional name otherwise r m = .ok a) (ho : P otherwise) (hr : ∀ v b, r v = .ok b → P b) : P a := by
  rcases optional_ok h with rfl | ⟨v, hv⟩
  · exact ho
  · exact hr v a hv

theorem orNothing_ok {r : Reader α} {v : Json} {b : Option α} (h : orNothing r v = .ok b) : ∀ a ∈ b, r v = .ok a := by
  unfold orNothing at h
  split at h
  · cases h
    exact nofun
  · obtain ⟨a, ha, rfl⟩ := Checked.map_ok h
    intro a' ha'
    cases ha'
    exact ha

theorem Checked.list_map {f : α → Checked β} {g : β → α} (h : ∀ b, f (g b) = .ok b) (k : Nat) (bs : List β) :
    Checked.list f k (bs.map g) = .ok bs := by
  induction bs generalizing k with
  | nil => rfl
  | cons b bs ih =>
    rw [List.map_cons, Checked.list, h, ih]
    rfl

theorem closedRecord_ok {model : String} {known : List String} {fields : Json.Members → Checked α} {v : Json} {a : α}
    (h : closedRecord model known fields v = .ok a) : ∃ members, v = .obj members ∧ fields members = .ok a := by
  unfold closedRecord at h
  split at h
  · rename_i members
    refine ⟨members, rfl, ?_⟩
    unfold Checked.alsoWith at h
    split at h
    · rename_i heq _
      exact heq.trans h
    · cases h
    · cases h
  · cases h

end BrowserPilot.Schema

namespace BrowserPilot

open Schema

theorem Action.read_kind {k : ActionKind} {v : Json} {a : Action} (h : read k v = .ok a) : a.kind = k := by
  obtain ⟨members, -, hfields⟩ := closedRecord_ok h
  cases k with
  | navigate | click | extract | screenshot =>
    obtain ⟨f, x, hf, -, rfl⟩ := Checked.ap_ok hfields
    obtain ⟨u, -, rfl⟩ := Checked.map_ok hf
    rfl
  | type | scroll =>
    obtain ⟨f₁, x, hf₁, -, rfl⟩ := Checked.ap_ok hfields
    obtain ⟨f₂, y, hf₂, -, rfl⟩ := Checked.ap_ok hf₁
    obtain ⟨u, -, rfl⟩ := Checked.map_ok hf₂
    rfl
  | wait =>
    obtain ⟨f₁, x, hf₁, -, rfl⟩ := Checked.ap_ok hfields
    obtain ⟨f₂, y, hf₂, -, rfl⟩ := Checked.ap_ok hf₁
    obtain ⟨f₃, z, hf₃, -, rfl⟩ := Checked.ap_ok hf₂
    obtain ⟨u, -, rfl⟩ := Checked.map_ok hf₃
    rfl

theorem Step.attempt_kind (s : Step) (n : Int) : (s.attempt n).1.kind = s.kind := by
  unfold Step.attempt
  split
  · rfl
  · cases hf : s.fallbacks[(n - 2).toNat]? with
    | none => simp only [hf]; rfl
    | some f =>
      simp only [hf]
      split
      · rename_i a ha
        exact Action.read_kind ha
      · rfl

theorem Step.attempt_fallback (s : Step) (n : Nat) :
    (s.attempt n).2 = if 2 ≤ n ∧ n - 2 < s.fallbacks.length then some (n - 2) else none := by
  have hn : ((n : Int) - 2).toNat = n - 2 := by omega
  unfold Step.attempt
  rw [hn]
  by_cases h₂ : 2 ≤ n
  · rw [if_neg (by omega)]
    cases hf : s.fallbacks[n - 2]? with
    | none =>
      have hl := List.getElem?_eq_none_iff.mp hf
      simp only [hf]
      rw [if_neg (by omega)]
    | some f =>
      have hl := (List.getElem?_eq_some_iff.mp hf).1
      simp only [hf]
      rw [if_pos ⟨h₂, hl⟩]
      split <;> rfl
  · rw [if_pos (by omega), if_neg (by omega)]

theorem Step.attempt_fallback_lt {s : Step} {n k : Nat} (h : (s.attempt n).2 = some k) : k < s.fallbacks.length := by
  rw [Step.attempt_fallback] at h
  split at h
  · rename_i hn
    exact Option.some.inj h ▸ hn.2
  · cases h

end BrowserPilot
