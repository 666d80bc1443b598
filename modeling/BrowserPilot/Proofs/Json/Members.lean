import BrowserPilot.Json.Basic
import Mathlib.Data.List.Induction

/-!
# Members of objects

What an object has under a name after members are put over it: the last value
that was written, or what was there before.
-/

namespace BrowserPilot.Json

variable {base upper m : Members} {name k : String} {v : Json}

@[simp] theorem get?_nil (name : String) : get? [] name = none := rfl

theorem get?_cons (name : String) (v : Json) (m : Members) (k : String) :
    get? ((name, v) :: m) k = if k = name then some v else get? m k := by
  unfold get?
  rw [List.lookup_cons]
  by_cases h : k = name
  · simp [h]
  · rw [beq_false_of_ne h, if_neg h]

theorem get?_put (name : String) (v : Json) (m : Members) (k : String) :
    get? (put name v m) k = if k = name then some v else get? m k := by
  induction m with
  | nil => rw [put, get?_cons]
  | cons kv m ih =>
    obtain ⟨name', v'⟩ := kv
    rw [put]
    by_cases h : name' = name
    · rw [if_pos h, h, get?_cons, get?_cons]
      split <;> rfl
    · rw [if_neg h, get?_cons, get?_cons, ih]
      by_cases hk : k = name'
      · rw [if_pos hk, if_pos hk, if_neg (hk ▸ h)]
      · rw [if_neg hk, if_neg hk]

theorem override_snoc (base upper : Members) (kv : String × Json) :
    override base (upper ++ [kv]) = put kv.1 kv.2 (override base upper) := by
  rw [override, List.foldl_append]
  rfl

theorem get?_override (base upper : Members) (k : String) :
    get? (override base upper) k = (get? (ofWritten upper) k).or (get? base k) := by
  unfold ofWritten
  induction upper using List.reverseRecOn with
  | nil => rfl
  | append_singleton upper kv ih =>
    rw [override_snoc, override_snoc, get?_put, get?_put]
    by_cases h : k = kv.1
    · rw [if_pos h, if_pos h, Option.some_or]
    · rw [if_neg h, if_neg h, ih]

theorem mem_of_get?_ofWritten (h : get? (ofWritten m) k = some v) : k ∈ m.map (·.1) := by
  unfold ofWritten at h
  induction m using List.reverseRecOn with
  | nil => cases h
  | append_singleton m kv ih =>
    rw [List.map_append, List.mem_append]
    rw [override_snoc, get?_put] at h
    split at h
    · next hk => exact .inr (List.mem_singleton.mpr hk)
    · exact .inl (ih h)

theorem get?_eq_none (h : k ∉ m.map (·.1)) : get? m k = none := by
  induction m with
  | nil => rfl
  | cons kv m ih =>
    rw [List.map_cons, List.mem_cons, not_or] at h
    rw [get?_cons, if_neg h.1, ih h.2]

theorem put_new (v : Json) (h : name ∉ m.map (·.1)) : put name v m = m ++ [(name, v)] := by
  induction m with
  | nil => rfl
  | cons kv m ih =>
    rw [List.map_cons, List.mem_cons, not_or] at h
    rw [put, if_neg (Ne.symm h.1), ih h.2, List.cons_append]

theorem ofWritten_nodup (h : (m.map (·.1)).Nodup) : ofWritten m = m := by
  induction m using List.reverseRecOn with
  | nil => rfl
  | append_singleton m kv ih =>
    rw [List.map_append, List.nodup_append] at h
    obtain ⟨hnodup, -, hnew⟩ := h
    unfold ofWritten at ih ⊢
    rw [override_snoc, ih hnodup]
    exact put_new kv.2 fun hmem => hnew _ hmem _ (by simp) rfl

theorem mem_of_get? (h : get? m name = some v) : (name, v) ∈ m := by
  induction m with
  | nil => cases h
  | cons kv m ih =>
    rw [get?_cons] at h
    by_cases hk : name = kv.1
    · rw [if_pos hk] at h
      cases h
      subst hk
      exact List.mem_cons_self ..
    · rw [if_neg hk] at h
      exact List.mem_cons_of_mem _ (ih h)

theorem names_put (name : String) (v : Json) (m : Members) :
    (put name v m).map (·.1) = if name ∈ m.map (·.1) then m.map (·.1) else m.map (·.1) ++ [name] := by
  induction m with
  | nil => rfl
  | cons kv m ih =>
    rw [put]
    by_cases hk : kv.1 = name
    · simp [hk]
    · rw [if_neg hk, List.map_cons, List.map_cons, ih]
      by_cases hmem : name ∈ m.map (·.1)
      · rw [if_pos hmem, if_pos (List.mem_cons_of_mem _ hmem)]
      · rw [if_neg hmem, if_neg (by simpa [Ne.symm hk] using hmem), List.cons_append]

theorem mem_put {kv : String × Json} (h : kv ∈ put name v m) : kv = (name, v) ∨ kv ∈ m := by
  induction m with
  | nil => exact .inl (List.mem_singleton.mp h)
  | cons kv' m ih =>
    rw [put] at h
    by_cases hk : kv'.1 = name
    · rw [if_pos hk, List.mem_cons, hk] at h
      exact h.imp_right (List.mem_cons_of_mem _)
    · rw [if_neg hk, List.mem_cons] at h
      rcases h with rfl | h
      · exact .inr (List.mem_cons_self ..)
      · exact (ih h).imp_right (List.mem_cons_of_mem _)

theorem get?_of_mem (h : (m.map (·.1)).Nodup) {kv : String × Json} (hkv : kv ∈ m) : get? m kv.1 = some kv.2 := by
  induction m with
  | nil => cases hkv
  | cons kv' m ih =>
    rw [List.map_cons, List.nodup_cons] at h
    rw [get?_cons]
    rcases List.mem_cons.mp hkv with rfl | hkv
    · rw [if_pos rfl]
    · have hne : kv.1 ≠ kv'.1 := by
        intro heq
        exact h.1 (heq ▸ List.mem_map_of_mem hkv)
      rw [if_neg hne, ih h.2 hkv]

theorem put_same (h : get? m name = some v) : put name v m = m := by
  induction m with
  | nil => cases h
  | cons kv m ih =>
    rw [get?_cons] at h
    rw [put]
    by_cases hk : name = kv.1
    · rw [if_pos hk] at h
      cases h
      simp [hk]
    · rw [if_neg hk] at h
      rw [if_neg (Ne.symm hk), ih h]

theorem override_same (h : ∀ kv ∈ upper, get? base kv.1 = some kv.2) : override base upper = base := by
  induction upper with
  | nil => rfl
  | cons kv upper ih =>
    rw [override, List.foldl_cons, put_same (h kv (List.mem_cons_self ..))]
    exact ih fun kv hkv => h kv (List.mem_cons_of_mem _ hkv)

theorem override_override (h : (upper.map (·.1)).Nodup) (base : Members) :
    override (override base upper) upper = override base upper := by
  refine override_same fun kv hkv => ?_
  rw [get?_override, ofWritten_nodup h, get?_of_mem h hkv, Option.some_or]

end BrowserPilot.Json
