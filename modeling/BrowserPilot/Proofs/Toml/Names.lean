import BrowserPilot.Proofs.Json.Members
import BrowserPilot.Toml.Reader

/-!
# The names in a document

A document gives every name in a table one value: whatever is written, the
object that is read has different names, and so has every table in it.
-/

namespace BrowserPilot

namespace Json

/-- A value in which the names of every object are different. -/
inductive IsNamed : Json → Prop where
  | plain {v : Json} (h : Toml.isContainer v = false) : IsNamed v
  | arr {items : List Json} (h : ∀ v ∈ items, IsNamed v) : IsNamed (.arr items)
  | obj {members : Members} (hnames : (members.map (·.1)).Nodup) (h : ∀ kv ∈ members, IsNamed kv.2) :
    IsNamed (.obj members)

section
variable {m : Members} {name : String} {v : Json}

theorem isNamed_nil : IsNamed (.obj []) := .obj .nil (List.forall_mem_nil _)

theorem IsNamed.items {items : List Json} (h : IsNamed (.arr items)) : ∀ v ∈ items, IsNamed v := by
  cases h with
  | plain h => cases h
  | arr h => exact h

theorem IsNamed.nodup (h : IsNamed (.obj m)) : (m.map (·.1)).Nodup := by
  cases h with
  | plain h => cases h
  | obj hnames h => exact hnames

theorem IsNamed.members (h : IsNamed (.obj m)) : ∀ kv ∈ m, IsNamed kv.2 := by
  cases h with
  | plain h => cases h
  | obj hnames h => exact h

theorem IsNamed.get? (h : IsNamed (.obj m)) (hv : get? m name = some v) : IsNamed v := h.members _ (mem_of_get? hv)

theorem IsNamed.put (h : IsNamed (.obj m)) (hv : IsNamed v) : IsNamed (.obj (put name v m)) := by
  refine .obj ?_ fun kv hkv => ?_
  · rw [names_put]
    by_cases hmem : name ∈ m.map (·.1)
    · rw [if_pos hmem]
      exact h.nodup
    · rw [if_neg hmem]
      exact List.nodup_append.mpr ⟨h.nodup, List.pairwise_singleton .., by
        intro a ha b hb
        rw [List.mem_singleton.mp hb]
        exact fun heq => hmem (heq ▸ ha)⟩
  · rcases mem_put hkv with rfl | hkv
    · exact hv
    · exact h.members kv hkv

end

end Json

namespace Toml

open Json

/-! ## Tables -/

def KeepsNames (f : Members → Option Members) : Prop :=
  ∀ m m', IsNamed (.obj m) → f m = some m' → IsNamed (.obj m')

theorem keepsNames_some : KeepsNames some := fun _ _ h heq => Option.some.inj heq ▸ h

theorem keepsNames_putNew {v : Json} (hv : v.IsNamed) (name : String) : KeepsNames (Document.putNew? name v) := by
  intro m m' h heq
  unfold Document.putNew? at heq
  split at heq
  · cases heq
    exact h.put hv
  · cases heq

theorem keepsNames_appendTable (name : String) : KeepsNames (appendTable? name) := by
  intro m m' h heq
  unfold appendTable? at heq
  split at heq
  · cases heq
    exact h.put (.arr (List.forall_mem_singleton.mpr isNamed_nil))
  · rename_i items hitems
    cases heq
    refine h.put (.arr (List.forall_mem_append.mpr ⟨(h.get? hitems).items, ?_⟩))
    exact List.forall_mem_singleton.mpr isNamed_nil
  · cases heq

theorem keepsNames_within {f : Members → Option Members} (hf : KeepsNames f) (throughLists : Bool) (k : Key) :
    KeepsNames (within? throughLists f k) := by
  induction k with
  | nil => exact hf
  | cons name rest ih =>
    intro m m' h heq
    unfold within? at heq
    split at heq
    · obtain ⟨inner, hinner, rfl⟩ := Option.map_eq_some_iff.mp heq
      exact h.put (ih _ _ isNamed_nil hinner)
    · rename_i table htable
      obtain ⟨inner, hinner, rfl⟩ := Option.map_eq_some_iff.mp heq
      exact h.put (ih _ _ (h.get? htable) hinner)
    · rename_i items hitems
      have hall := (h.get? hitems).items
      split at heq
      · split at heq
        · -- a list of tables stands for its last one
          rename_i table hlast
          obtain ⟨inner, hinner, rfl⟩ := Option.map_eq_some_iff.mp heq
          have htable := ih _ _ (hall _ (List.mem_of_getLast? hlast)) hinner
          refine h.put (.arr (List.forall_mem_append.mpr ⟨fun v hv => ?_, List.forall_mem_singleton.mpr htable⟩))
          exact hall v (List.dropLast_subset _ hv)
        · cases heq
      · cases heq
    · cases heq

/-! ## Readers -/

def Gives {ε α : Type} (P : α → Prop) (r : Except ε α) : Prop := ∀ a, r = .ok a → P a

section
variable {ε α β : Type} {P : α → Prop} {Q : β → Prop} {r : Except ε α}

theorem Gives.ok {a : α} (h : P a) : Gives P (.ok a : Except ε α) := fun _ heq => Except.ok.inj heq ▸ h

theorem Gives.error {e : ε} : Gives P (.error e : Except ε α) := nofun

theorem Gives.bind {f : α → Except ε β} (h : Gives P r) (hf : ∀ a, P a → Gives Q (f a)) : Gives Q (r >>= f) := by
  cases r with
  | error e => exact .error
  | ok a => exact hf a (h a rfl)

theorem Gives.map {f : α → β} (h : Gives P r) (hf : ∀ a, P a → Q (f a)) : Gives Q (r.map f) := by
  cases r with
  | error e => exact .error
  | ok a => exact .ok (hf a (h a rfl))

theorem gives_true (r : Except ε α) : Gives (fun _ => True) r := fun _ _ => trivial

end

/-! ## Values -/

theorem readBased?_plain {base : Nat} {cs : List Char} {r : Json × List Char} (h : readBased? base cs = some r) :
    isContainer r.1 = false := by
  unfold readBased? at h
  dsimp only at h
  split at h
  · cases h
  · cases h
    rfl

theorem readPrefixed?_plain {cs : List Char} {r : Json × List Char} (h : readPrefixed? cs = some r) :
    isContainer r.1 = false := by
  unfold readPrefixed? at h
  split at h
  · exact readBased?_plain h
  · exact readBased?_plain h
  · exact readBased?_plain h
  · cases h

theorem readDecimal?_plain {cs rest : List Char} {r : Except Fault Json} (h : readDecimal? cs = some (r, rest)) :
    Gives (fun v => isContainer v = false) r := by
  unfold readDecimal? at h
  dsimp only at h
  obtain ⟨whole, _, h⟩ := Option.map_eq_some_iff.mp h
  split at h
  · split at h
    · cases h
      exact .error
    · cases h
      exact .ok rfl
  · cases h
    exact .ok rfl

theorem readSpecial?_plain {cs : List Char} {r : Json × List Char} (h : readSpecial? cs = some r) :
    isContainer r.1 = false := by
  unfold readSpecial? at h
  split at h <;> cases h <;> rfl

theorem readScalar_plain (cs : List Char) : Gives (fun r => isContainer r.1 = false) (readScalar cs) := by
  have htext : ∀ (x : Except Fault (List Char × List Char)),
      Gives (fun r : Json × List Char => isContainer r.1 = false) (x.map fun r => (.str (String.ofList r.1), r.2)) :=
    fun x => (gives_true x).map fun _ _ => rfl
  unfold readScalar
  split
  · exact htext _
  · exact htext _
  · exact htext _
  · exact htext _
  · exact .ok rfl
  · exact .ok rfl
  · split
    · exact .ok rfl
    · exact .error
    · split
      · exact .ok rfl
      · split
        · rename_i r hr
          exact .ok (readPrefixed?_plain hr)
        · split
          · rename_i r rest hr
            exact (readDecimal?_plain hr).map fun _ h => h
          · split
            · rename_i r hr
              exact .ok (readSpecial?_plain hr)
            · exact .error

theorem assign_isNamed {t : InlineTable} (ht : IsNamed (.obj t.data)) {v : Json} (hv : v.IsNamed) (k : Key) :
    Gives (fun t => IsNamed (.obj t.data)) (t.assign k v) := by
  unfold InlineTable.assign
  dsimp only
  split
  · exact .error
  · split
    · exact .error
    · split
      · exact .error
      · rename_i data hdata
        exact .ok (keepsNames_within (keepsNames_putNew hv _) _ _ _ _ ht hdata)

section
variable {fuel : Nat} (hvalue : ∀ cs, Gives (fun r => r.1.IsNamed) (readValue fuel cs))
  (hitems : ∀ cs, Gives (fun r => ∀ v ∈ r.1, v.IsNamed) (readItems fuel cs))
  (hmembers : ∀ t cs, IsNamed (.obj t.data) → Gives (fun r => IsNamed (.obj r.1)) (readMembers fuel t cs))

include hitems hmembers in
theorem readValue_succ_isNamed (cs : List Char) : Gives (fun r => r.1.IsNamed) (readValue (fuel + 1) cs) := by
  unfold readValue
  split
  · exact .error
  · rename_i heq
    cases heq
    refine (gives_true _).bind fun rest _ => ?_
    split
    · exact .ok (.arr (List.forall_mem_nil _))
    · exact (hitems _).map fun _ h => IsNamed.arr h
  · rename_i heq
    cases heq
    split
    · exact .ok isNamed_nil
    · exact (hmembers {} _ isNamed_nil).map fun _ h => h
  · intro r hr
    exact .plain (readScalar_plain _ r hr)

include hvalue hitems in
theorem readItems_succ_isNamed (cs : List Char) : Gives (fun r => ∀ v ∈ r.1, v.IsNamed) (readItems (fuel + 1) cs) := by
  unfold readItems
  refine (hvalue cs).bind fun (v, rest) hv => (gives_true _).bind fun rest _ => ?_
  split
  · exact .ok (List.forall_mem_singleton.mpr hv)
  · refine (gives_true _).bind fun rest _ => ?_
    split
    · exact .ok (List.forall_mem_singleton.mpr hv)
    · exact (hitems _).map fun _ h => List.forall_mem_cons.mpr ⟨hv, h⟩
  · exact .error

include hvalue hmembers in
theorem readMembers_succ_isNamed (t : InlineTable) (cs : List Char) (ht : IsNamed (.obj t.data)) :
    Gives (fun r => IsNamed (.obj r.1)) (readMembers (fuel + 1) t cs) := by
  unfold readMembers
  refine (gives_true _).bind fun (k, rest) _ => ?_
  dsimp only
  split
  · refine (hvalue _).bind fun (v, rest) hv => ?_
    dsimp only
    split
    · exact .error
    · rename_i t' ht'
      have hnamed := assign_isNamed ht hv k t' ht'
      split
      · exact .ok hnamed
      · exact hmembers _ _ hnamed
      · exact .error
  · exact .error

end

theorem readValue_isNamed (fuel : Nat) :
    (∀ cs, Gives (fun r => r.1.IsNamed) (readValue fuel cs)) ∧
      (∀ cs, Gives (fun r => ∀ v ∈ r.1, v.IsNamed) (readItems fuel cs)) ∧
        ∀ t cs, IsNamed (.obj t.data) → Gives (fun r => IsNamed (.obj r.1)) (readMembers fuel t cs) := by
  -- the three readers call one another with less fuel, so one induction carries all three
  induction fuel with
  | zero =>
    refine ⟨fun cs => ?_, fun cs => ?_, fun t cs _ => ?_⟩
    · unfold readValue
      exact .error
    · unfold readItems
      exact .error
    · unfold readMembers
      exact .error
  | succ fuel ih =>
    obtain ⟨hvalue, hitems, hmembers⟩ := ih
    exact ⟨readValue_succ_isNamed hitems hmembers, readItems_succ_isNamed hvalue hitems,
      readMembers_succ_isNamed hvalue hmembers⟩

theorem readPair_isNamed (cs : List Char) : Gives (fun r => r.1.2.IsNamed) (readPair cs) := by
  unfold readPair
  refine (gives_true _).bind fun (k, rest) _ => ?_
  dsimp only
  split
  · exact ((readValue_isNamed _).1 _).bind fun _ hv => .ok hv
  · exact .error

/-! ## Documents -/

section
variable {d : Document} (h : IsNamed (.obj d.data))
include h

theorem declareTable_isNamed (k : Key) : Gives (fun d => IsNamed (.obj d.data)) (d.declareTable k) := by
  unfold Document.declareTable
  split
  · exact .error
  · split
    · exact .error
    · rename_i data hdata
      exact .ok (keepsNames_within keepsNames_some _ _ _ _ h hdata)

theorem declareTableOfList_isNamed (k : Key) : Gives (fun d => IsNamed (.obj d.data)) (d.declareTableOfList k) := by
  unfold Document.declareTableOfList
  split
  · exact .error
  · dsimp only
    split
    · exact .error
    · rename_i data hdata
      exact .ok (keepsNames_within (keepsNames_appendTable _) _ _ _ _ h hdata)

theorem assignKey_isNamed {v : Json} (hv : v.IsNamed) (k : Key) :
    Gives (fun d => IsNamed (.obj d.data)) (d.assign k v) := by
  unfold Document.assign
  dsimp only
  split
  · exact .error
  · split
    · exact .error
    · split
      · exact .error
      · rename_i data hdata
        exact .ok (keepsNames_within (keepsNames_putNew hv _) _ _ _ _ h hdata)

theorem readStatement_isNamed (cs : List Char) : Gives (fun r => IsNamed (.obj r.1.data)) (readStatement d cs) := by
  have hchange : ∀ {r : Except Complaint Document} (rest : List Char), Gives (fun d => IsNamed (.obj d.data)) r →
      Gives (fun d => IsNamed (.obj d.data)) (change r rest) := by
    intro r rest hr
    cases r with
    | error c => exact .error
    | ok d => exact .ok (hr d rfl)
  unfold readStatement
  split
  · refine (gives_true _).bind fun (k, rest) _ => ?_
    refine (hchange rest (declareTableOfList_isNamed (d := d.settle) h k)).bind fun d hd => ?_
    split
    · exact .ok hd
    · exact .error
  · refine (gives_true _).bind fun (k, rest) _ => ?_
    refine (hchange rest (declareTable_isNamed (d := d.settle) h k)).bind fun d hd => ?_
    split
    · exact .ok hd
    · exact .error
  · exact .ok h
  · split
    · refine (readPair_isNamed _).bind fun ((k, v), rest) hv => ?_
      exact (hchange rest (assignKey_isNamed h hv k)).bind fun d hd => .ok hd
    · exact .error
  · exact .ok h

end

theorem readStatements_isNamed (fuel : Nat) : ∀ {d : Document} (cs : List Char), IsNamed (.obj d.data) →
    Gives (fun d => IsNamed (.obj d.data)) (readStatements fuel d cs) := by
  induction fuel with
  | zero => exact fun _ h => .ok h
  | succ fuel ih =>
    intro d cs h
    unfold readStatements
    split
    · exact .ok h
    · exact ih _ h
    · exact (readStatement_isNamed h _).bind fun (d, rest) hd => (gives_true _).bind fun rest _ => ih rest hd

/-- **Every object that a document writes** has different names, and so has every table in it. -/
theorem parse_isNamed {text : String} {m : Members} (h : parse text = .ok m) : IsNamed (.obj m) := by
  have hread := readStatements_isNamed ((plainLines text.toList).length + 1) (d := {}) (plainLines text.toList) isNamed_nil
  unfold parse at h
  dsimp only at h
  split at h
  · rename_i d hd
    cases h
    exact hread d hd
  · cases h

end Toml

end BrowserPilot
