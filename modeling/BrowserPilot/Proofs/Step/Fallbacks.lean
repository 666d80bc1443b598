import BrowserPilot.Proofs.Monitor.Performed
import BrowserPilot.Proofs.Schema.Refusal
import BrowserPilot.Proofs.Step.Parameters

/-!
# Fallbacks of a step

A step is read only if each of its fallbacks can be put over its action. So no
attempt at it fails for its parameters, and each performs an action of the kind
of the step.
-/

namespace BrowserPilot

open Schema

/-- An action that has the parameters of a fallback where that names them, and
otherwise those of another action. -/
structure Action.Merges (a : Action) (f : Fallback) (merged : Action) : Prop where
  kind : merged.kind = a.kind
  named : ∀ {name raw}, Json.get? (Json.ofWritten f) name = some raw → ∃ p ∈ a.kind.parameters, p.name = name ∧
    ∃ w, p.coerce raw = .ok w ∧ Json.get? merged.parameters name = some w
  other : ∀ {name}, Json.get? (Json.ofWritten f) name = none → Json.get? merged.parameters name = Json.get? a.parameters name

theorem Action.Merges.unique {a b b' : Action} {f : Fallback} (h : a.Merges f b) (h' : a.Merges f b') : b = b' := by
  refine eq_of_parameters (h.kind.trans h'.kind.symm) fun name => ?_
  cases hraw : Json.get? (Json.ofWritten f) name with
  | none => rw [h.other hraw, h'.other hraw]
  | some raw =>
    obtain ⟨p, hp, hname, w, hw, hget⟩ := h.named hraw
    obtain ⟨p', hp', hname', w', hw', hget'⟩ := h'.named hraw
    obtain rfl := eq_of_name hp hp' (hname.trans hname'.symm)
    rw [hget, hget', Except.ok.inj (hw.symm.trans hw')]

namespace Step

/-! ## Checking fallbacks -/

theorem fallbackFault?_eq_none {id : String} {a : Action} {k : Nat} {f : Fallback} (h : fallbackFault? id a k f = none) :
    (∀ name ∈ f.map (·.1), name ∈ Action.parameterNames a.kind) ∧ ∃ merged, a.with? f = .ok merged := by
  unfold fallbackFault? at h
  dsimp only at h
  have hforeign : ((f.map (·.1)).filter fun k => !(Action.parameterNames a.kind).contains k).isEmpty = true := by
    by_contra hn
    rw [if_neg hn] at h
    cases h
  rw [if_pos hforeign] at h
  rw [List.isEmpty_iff, List.filter_eq_nil_iff] at hforeign
  refine ⟨fun name hname => by simpa using hforeign name hname, ?_⟩
  cases hw : a.with? f with
  | ok merged => exact ⟨merged, rfl⟩
  | error problems =>
    cases problems with
    | nil => exact absurd hw (Action.read_explains _ _)
    | cons p rest =>
      rw [hw] at h
      cases h

theorem firstFault?_eq_none {id : String} {a : Action} {k : Nat} {fs : List Fallback} (h : firstFault? id a k fs = none) :
    ∀ f ∈ fs, ∃ i, fallbackFault? id a i f = none := by
  induction fs generalizing k with
  | nil => simp
  | cons f fs ih =>
    unfold firstFault? at h
    cases hf : fallbackFault? id a k f with
    | some fault =>
      rw [hf] at h
      cases h
    | none =>
      rw [hf] at h
      exact List.forall_mem_cons.mpr ⟨⟨k, hf⟩, ih h⟩

theorem read_ok {v : Json} {s : Step} (h : read v = .ok s) :
    record "ActionStep" readFields v = .ok s ∧ firstFault? s.id s.action 0 s.fallbacks = none := by
  obtain ⟨s', hs', hcheck⟩ := Checked.bind_ok h
  split at hcheck
  · next hnone =>
    cases hcheck
    exact ⟨hs', hnone⟩
  · cases hcheck

/-! ## Merging -/

theorem with?_merges {a merged : Action} {f : Fallback} (h : a.with? f = .ok merged)
    (hnames : ∀ name ∈ f.map (·.1), name ∈ Action.parameterNames a.kind) : a.Merges f merged := by
  have hread : Action.read a.kind (.obj (Json.override a.members f)) = .ok merged := h
  have hkind := Action.read_kind hread
  obtain ⟨members, hobj, hfields⟩ := closedRecord_ok hread
  cases hobj
  have htakes := Action.readFields_takes hfields
  refine ⟨hkind, fun {name raw} hraw => ?_, fun {name} hnone => ?_⟩
  · obtain ⟨p, hp, rfl⟩ := Action.exists_parameter (hnames _ (Json.mem_of_get?_ofWritten hraw))
    obtain ⟨w, htake, hw⟩ := htakes p hp
    have hget : Json.get? (Json.override a.members f) p.name = some raw := by rw [Json.get?_override, hraw, Option.some_or]
    exact ⟨p, hp, rfl, w, Parameter.coerce_of_take htake hget, hw⟩
  · by_cases hname : name ∈ Action.parameterNames a.kind
    · -- the value of the action is read again, and is what it is read as
      obtain ⟨p, hp, rfl⟩ := Action.exists_parameter hname
      obtain ⟨w, htake, hw⟩ := htakes p hp
      obtain ⟨w', hw', hcoerce⟩ := a.parameters_coerced hp
      have haction : p.name ≠ "action" := by
        intro he
        have hno : "action" ∉ Action.parameterNames a.kind := by cases a.kind <;> decide
        exact hno (he ▸ hname)
      have hget : Json.get? (Json.override a.members f) p.name = some w' := by
        rw [Json.get?_override, hnone, Option.none_or, Action.members, Json.get?_cons, if_neg haction, hw']
      have hsame := Parameter.coerce_of_take htake hget
      rw [hcoerce] at hsame
      rw [hw, hw', Except.ok.inj hsame]
    · rw [Action.get?_parameters_none (hkind ▸ hname), Action.get?_parameters_none hname]

/-! ## Attempts -/

theorem attempt_eq_self {s : Step} {n : Int} (h : ∀ i : Nat, n = i + 2 → s.fallbacks.length ≤ i) :
    s.attempt n = (s.action, none) := by
  unfold attempt
  split
  · rfl
  · have hnone : s.fallbacks[(n - 2).toNat]? = none := List.getElem?_eq_none (h _ (by omega))
    simp only [hnone]

theorem attempt_with {s : Step} {i : Nat} {f : Fallback} {a : Action} (hf : s.fallbacks[i]? = some f)
    (ha : s.action.with? f = .ok a) : s.attempt (i + 2) = (a, some i) := by
  have hn : ¬((i : Int) + 2 < 2) := by omega
  have hi : ((i : Int) + 2 - 2).toNat = i := by omega
  simp only [attempt, if_neg hn, hi, hf, ha]

/-- **Attempts never fail for their parameters.** Of a step that has been read,
the attempt after the second but `i` has the fallback `i` put over the action
of the step, and every other attempt has that action itself. All that a run
performs is an action of the kind of the step that it is at. -/
theorem attempts_merge {v : Json} {s : Step} (h : read v = .ok s) :
    (∀ {i : Nat} {f : Fallback}, s.fallbacks[i]? = some f → ∃ a, s.action.with? f = .ok a ∧
        s.attempt (i + 2) = (a, some i) ∧ ∀ b, s.action.Merges f b ↔ b = a) ∧
      (∀ n : Int, (∀ i : Nat, n = i + 2 → s.fallbacks.length ≤ i) → s.attempt n = (s.action, none)) ∧
      (∀ n : Int, (s.attempt n).1.kind = s.kind) ∧
      ∀ {now : Instant} {id taskName : String} {plan : Plan} {control : Control} {m : Monitor},
        Monitor.create now id taskName plan control = .ok m → ∀ {signals : List (Moment × Signal)},
          (∀ x ∈ signals, x.2.isOfRun = true) →
            (∀ {a : Attempt}, (m.receiveAll signals).phase.current? = some a → plan.steps[a.index]? = some s →
              (a.action, a.fallback) = s.attempt a.number ∧ a.action.kind = s.kind) ∧
            ∀ {x : Action}, .perform x ∈ (m.receiveAll signals).asked →
              ∃ step ∈ plan.steps, ∃ n : Nat, x = (step.attempt n).1 ∧ x.kind = step.kind := by
  obtain ⟨_, hfaults⟩ := read_ok h
  refine ⟨fun {i f} hf => ?_, fun n => attempt_eq_self, s.attempt_kind, fun {_ _ _ _ _ _} hm {signals} hs => ⟨fun {a} ha hstep => ?_, fun {x} hx => ?_⟩⟩
  · obtain ⟨k, hk⟩ := firstFault?_eq_none hfaults f (List.mem_of_getElem? hf)
    obtain ⟨hnames, a, ha⟩ := fallbackFault?_eq_none hk
    have hmerges := with?_merges ha hnames
    refine ⟨a, ha, attempt_with hf ha, fun b => ⟨fun hb => hb.unique hmerges, ?_⟩⟩
    rintro rfl
    exact hmerges
  · obtain ⟨step, hstep', hmakes⟩ := (Monitor.receiveAll_performs hm signals hs).current a ha
    obtain rfl : step = s := Option.some.inj (hstep'.symm.trans hstep)
    exact ⟨hmakes, (congrArg (fun r => r.1.kind) hmakes).trans (step.attempt_kind _)⟩
  · obtain ⟨a, ⟨step, hstep, hmakes⟩, rfl⟩ := (Monitor.receiveAll_performs hm signals hs).asked x hx
    exact ⟨step, List.mem_of_getElem? hstep, a.number, congrArg Prod.fst hmakes,
      (congrArg (fun r => r.1.kind) hmakes).trans (step.attempt_kind _)⟩

private def rawQueue : Json :=
  .obj [("id", .str "queue"), ("ordinal", .str "2"), ("params", .obj [("action", .str "wait"), ("duration_ms", .str " 1_00 ")]),
    ("fallbacks", .arr [.obj [("duration_ms", .bool true)], .obj [("selector", .str "#next"), ("mode", .str "selector")]])]

private def queue : Step :=
  ⟨"queue", 2, .wait .time 100 "", [[("duration_ms", .bool true)], [("selector", .str "#next"), ("mode", .str "selector")]], {}⟩

private def queueing : Plan where
  steps := [queue]
  delay _ _ := .ok (.part (.ofNat 1))

private def opening : Moment := .ofSeconds (.ofNat 0)

private def queueingTwice : List (Moment × Signal) :=
  [.start, .outcome (.raised (.foreign "ValueError" "closed")), .turn, .timeUp, .turn].map (opening, ·)

private def freshQueue : Monitor := { plan := queueing, session := .ofSteps opening.wall "session" "task" queueing.steps }

/-- The truth value of the first fallback counts as a number, for the step and
for the run that tries it. -/
theorem attempts_merge_queue : read rawQueue = .ok queue ∧ Monitor.create opening.wall "session" "task" queueing {} = .ok freshQueue ∧
    (∀ x ∈ queueingTwice, x.2.isOfRun = true) ∧
      queue.attempt 2 = (.wait .time 1 "", some 0) ∧ queue.action.Merges [("duration_ms", .bool true)] (.wait .time 1 "") ∧
        queue.attempt 4 = (.wait .time 100 "", none) ∧
          (freshQueue.receiveAll queueingTwice).phase.current? = some ⟨0, 2, .wait .time 1 "", some 0⟩ ∧
            (Action.wait .time 1 "", some 0) = queue.attempt (2 : Nat) ∧ (Action.wait .time 1 "").kind = queue.kind := by
  have hread : read rawQueue = .ok queue := by rfl
  have hcreate : Monitor.create opening.wall "session" "task" queueing {} = .ok freshQueue := rfl
  have hrun : ∀ x ∈ queueingTwice, x.2.isOfRun = true := by simp [queueingTwice, Signal.isOfRun]
  have hcurrent : (freshQueue.receiveAll queueingTwice).phase.current? = some ⟨0, 2, .wait .time 1 "", some 0⟩ := by rfl
  obtain ⟨hfallback, hself, _, hperform⟩ := attempts_merge hread
  obtain ⟨a, hwith, hattempt, hmerges⟩ := hfallback (i := 0) rfl
  have hvalue : queue.action.with? [("duration_ms", .bool true)] = .ok (.wait .time 1 "") := by rfl
  obtain rfl : a = .wait .time 1 "" := Except.ok.inj (hwith.symm.trans hvalue)
  obtain ⟨hmade, hkind⟩ := (hperform hcreate hrun).1 hcurrent rfl
  have hlast := hself 4 fun i hi => by
    have : i = 2 := by omega
    subst this
    decide
  exact ⟨hread, hcreate, hrun, hattempt, (hmerges _).mpr rfl, hlast, hcurrent, hmade, hkind⟩

end Step

end BrowserPilot
