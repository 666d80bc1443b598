import BrowserPilot.Browser.ProfilePool
import BrowserPilot.Proofs.Json.Members
import BrowserPilot.Proofs.Schema.Inversion

/-!
# Overrides and the draw

A profile is drawn before overrides are looked at. The same profiles are drawn
whatever is overridden, and what is overridden takes the place of single parts
of the one profile that was drawn.
-/

namespace BrowserPilot

open Schema

/-! ## Valid profiles -/

def Viewport.IsValid (v : Viewport) : Prop := 0 < v.width ∧ 0 < v.height

def Profile.IsValid (p : Profile) : Prop := p.viewport.IsValid

namespace Viewport

theorem positive_ofNat {n : Nat} (h : 0 < n) : positive (.ofNat n) = .ok n := by
  have hpos : (0 : Int) < n := by omega
  rw [positive, Json.ofNat, whole, Except.bind, if_pos hpos, Int.toNat_natCast]

theorem read_toJson {v : Viewport} (h : v.IsValid) : read v.toJson = .ok v := by
  have hw : required "width" positive [("width", .ofNat v.width), ("height", .ofNat v.height)] = .ok v.width :=
    required_eq rfl (positive_ofNat h.1)
  have hh : required "height" positive [("width", .ofNat v.width), ("height", .ofNat v.height)] = .ok v.height :=
    required_eq rfl (positive_ofNat h.2)
  rw [read, toJson, record, hw, hh]
  rfl

theorem read_isValid {raw : Json} {v : Viewport} (h : read raw = .ok v) : v.IsValid := by
  cases raw with
  | obj m =>
    obtain ⟨f, height, hf, hheight, rfl⟩ := Checked.ap_ok h
    obtain ⟨width, hwidth, rfl⟩ := Checked.map_ok hf
    obtain ⟨_, hwidth⟩ := required_ok hwidth
    obtain ⟨_, hheight⟩ := required_ok hheight
    exact ⟨positive_ok hwidth, positive_ok hheight⟩
  | _ => cases h

end Viewport

theorem Profile.read_toJson {p : Profile} (h : p.IsValid) : Profile.read p.toJson = .ok p := by
  have hagent : required "user_agent" text p.members = .ok p.userAgent := required_eq rfl rfl
  have hviewport : required "viewport" Viewport.read p.members = .ok p.viewport :=
    required_eq rfl (Viewport.read_toJson h)
  have htimezone : required "timezone" text p.members = .ok p.timezone := required_eq rfl rfl
  have hlocale : required "locale" text p.members = .ok p.locale := required_eq rfl rfl
  rw [Profile.read, toJson, record, hagent, hviewport, htimezone, hlocale]
  rfl

/-! ## Replacing parts -/

namespace ProfileOverrides

def IsValid (o : ProfileOverrides) : Prop := ∀ v ∈ o.viewport, v.IsValid

def apply (o : ProfileOverrides) (p : Profile) : Profile where
  userAgent := o.userAgent.getD p.userAgent
  viewport := o.viewport.getD p.viewport
  timezone := o.timezone.getD p.timezone
  locale := o.locale.getD p.locale

theorem apply_isValid {o : ProfileOverrides} {p : Profile} (h : o.IsValid) (hp : p.IsValid) : (o.apply p).IsValid := by
  cases hv : o.viewport with
  | none => simpa [apply, Profile.IsValid, hv] using hp
  | some v => simpa [apply, Profile.IsValid, hv] using h v hv

theorem override_members (o : ProfileOverrides) (p : Profile) :
    Json.override p.members o.members = (o.apply p).members := by
  obtain ⟨agent, viewport, timezone, locale⟩ := o
  cases agent <;> cases viewport <;> cases timezone <;> cases locale <;> rfl

theorem apply_of_members {o : ProfileOverrides} (h : o.members = []) (p : Profile) : o.apply p = p := by
  obtain ⟨agent, viewport, timezone, locale⟩ := o
  obtain ⟨rfl, rfl, rfl, rfl⟩ : agent = none ∧ viewport = none ∧ timezone = none ∧ locale = none := by
    simpa [members] using h
  rfl

theorem replaceIn_eq {o : ProfileOverrides} (h : o.IsValid) {p : Profile} (hp : p.IsValid) :
    o.replaceIn p = .ok (o.apply p) := by
  unfold replaceIn
  by_cases hset : o.members = []
  · rw [hset, List.isEmpty_nil, if_pos rfl, apply_of_members hset]
  · rw [if_neg (by simpa using hset), override_members]
    exact Profile.read_toJson (apply_isValid h hp)

theorem read_isValid {raw : Json} {o : ProfileOverrides} (h : read raw = .ok o) : o.IsValid := by
  cases raw with
  | obj m =>
    obtain ⟨f₁, locale, h₁, -, rfl⟩ := Checked.ap_ok h
    obtain ⟨f₂, timezone, h₂, -, rfl⟩ := Checked.ap_ok h₁
    obtain ⟨f₃, viewport, h₃, hviewport, rfl⟩ := Checked.ap_ok h₂
    obtain ⟨agent, -, rfl⟩ := Checked.map_ok h₃
    have hvalid : ∀ v b, orNothing Viewport.read v = .ok b → ∀ w ∈ b, w.IsValid :=
      fun v b hb w hw => Viewport.read_isValid (orNothing_ok hb w hw)
    exact field_ok (P := fun b => ∀ w ∈ b, w.IsValid) hviewport nofun hvalid
  | _ => cases h

end ProfileOverrides

namespace Overriding

def Sets (r : Overriding) (o : ProfileOverrides) : Prop :=
  match r with
  | nothing => o = {}
  | parts given => o = given ∧ given.IsValid
  | described v => ProfileOverrides.read v = .ok o

theorem replaceIn_eq {r : Overriding} {o : ProfileOverrides} (h : r.Sets o) {p : Profile} (hp : p.IsValid) :
    r.replaceIn p = .ok (o.apply p) := by
  cases r with
  | nothing =>
    cases h
    rfl
  | parts given =>
    obtain ⟨rfl, hvalid⟩ := h
    exact ProfileOverrides.replaceIn_eq hvalid hp
  | described v =>
    rw [replaceIn, show ProfileOverrides.read v = .ok o from h]
    exact ProfileOverrides.replaceIn_eq (ProfileOverrides.read_isValid h) hp

end Overriding

/-! ## Drawing -/

namespace Draw

variable {α β : Type}

theorem bind_pure_fst (x : Draw β) (f : β → α) (g : Twister) : ((x >>= fun b => pure (f b)) g).1 = f (x g).1 := rfl

theorem member_mem {xs : List α} (h : xs ≠ []) (g : Twister) : (member xs h g).1 ∈ xs := by
  unfold member
  rw [bind_pure_fst]
  split
  · exact List.mem_of_getElem? ‹_›
  · exact List.head_mem h

end Draw

namespace ProfilePool

theorem allProfiles_isValid : ∀ p ∈ allProfiles, p.IsValid := by
  have hviewports : ∀ p ∈ Platform.all, ∀ v ∈ p.viewports, 0 < v.width ∧ 0 < v.height := by decide
  intro p hp
  simp only [allProfiles, List.mem_flatMap, List.mem_map] at hp
  obtain ⟨platform, hplatform, version, -, viewport, hviewport, region, -, rfl⟩ := hp
  exact hviewports platform hplatform viewport hviewport

theorem draw_mem (pool : ProfilePool) (g : Twister) : (pool.draw g).1 ∈ pool.profiles :=
  Draw.member_mem pool.nonempty g

def drawAll (pool : ProfilePool) : Nat → Draw (List Profile)
  | 0 => pure []
  | n + 1 => do
    let p ← pool.draw
    let more ← pool.drawAll n
    pure (p :: more)

theorem drawAll_mem (pool : ProfilePool) (n : Nat) (g : Twister) : ∀ p ∈ (pool.drawAll n g).1, p ∈ pool.profiles := by
  induction n generalizing g with
  | zero => exact nofun
  | succ n ih => exact List.forall_mem_cons.mpr ⟨pool.draw_mem g, ih _⟩

theorem length_drawAll (pool : ProfilePool) (n : Nat) (g : Twister) : (pool.drawAll n g).1.length = n := by
  induction n generalizing g with
  | zero => rfl
  | succ n ih => exact congrArg (· + 1) (ih _)

/-- Whatever is to be replaced, and even when it is refused, the same profiles are drawn. -/
theorem mapM_generate (pool : ProfilePool) (rs : List Overriding) (g : Twister) :
    rs.mapM pool.generate g =
      (rs.zipWith Overriding.replaceIn (pool.drawAll rs.length g).1, (pool.drawAll rs.length g).2) := by
  induction rs generalizing g with
  | nil => rfl
  | cons r rs ih =>
    calc (r :: rs).mapM pool.generate g
        = ((pool.generate r g).1 :: (rs.mapM pool.generate (pool.generate r g).2).1,
            (rs.mapM pool.generate (pool.generate r g).2).2) := by
          rw [List.mapM_cons]
          rfl
      _ = _ := by
          rw [ih]
          rfl

/-- What a part becomes: the value that is set, else what it was. -/
def Takes {α : Type} (set : Option α) (old new : α) : Prop := (∀ a ∈ set, new = a) ∧ (set = none → new = old)

theorem takes_getD {α : Type} (set : Option α) (old : α) : Takes set old (set.getD old) := by
  cases set with
  | none => exact ⟨nofun, fun _ => rfl⟩
  | some a => exact ⟨fun b hb => Option.some.inj hb, nofun⟩

/-- **Overrides never disturb the draw.** Beside a generator that starts alike and
overrides nothing, the profiles differ in the parts that are set and nowhere else,
and both are left alike, even if some of the overrides are refused. -/
theorem overrides_leave_draw {pool : ProfilePool} (hpool : ∀ p ∈ pool.profiles, p.IsValid) (g : Twister)
    (rs : List Overriding) :
    let plain : List (Checked Profile) × Twister := (List.replicate rs.length .nothing).mapM pool.generate g
    let given : List (Checked Profile) × Twister := rs.mapM pool.generate g
    given.1.length = rs.length ∧ given.2 = plain.2 ∧
      ∀ (k : Nat) (r : Overriding) (o : ProfileOverrides), rs[k]? = some r → r.Sets o →
        ∃ p q, plain.1[k]? = some (.ok p) ∧ p ∈ pool.profiles ∧ given.1[k]? = some (.ok q) ∧
          Takes o.userAgent p.userAgent q.userAgent ∧ Takes o.viewport p.viewport q.viewport ∧
          Takes o.timezone p.timezone q.timezone ∧ Takes o.locale p.locale q.locale := by
  intro plain given
  have hplain : plain = _ := mapM_generate pool _ g
  have hgiven : given = _ := mapM_generate pool rs g
  rw [List.length_replicate] at hplain
  have hlength := pool.length_drawAll rs.length g
  have hmem := pool.drawAll_mem rs.length g
  rw [hplain, hgiven]
  refine ⟨by simp [hlength], rfl, fun k r o hr hsets => ?_⟩
  have hk : k < rs.length := (List.getElem?_eq_some_iff.mp hr).1
  obtain ⟨p, hp⟩ : ∃ p, (pool.drawAll rs.length g).1[k]? = some p :=
    ⟨_, List.getElem?_eq_getElem (by rwa [hlength])⟩
  have hdrawn : p ∈ pool.profiles := hmem p (List.mem_of_getElem? hp)
  refine ⟨p, o.apply p, ?_, hdrawn, ?_, takes_getD .., takes_getD .., takes_getD .., takes_getD ..⟩
  · simp [List.getElem?_zipWith, hk, hp, Overriding.replaceIn]
  · simp [List.getElem?_zipWith, hr, hp, Overriding.replaceIn_eq hsets (hpool p hdrawn)]

theorem overrides_leave_draw_arabic :
    let arabic : Overriding := .described (.obj [("locale", .str "ar-SA"), ("viewport", .null)])
    let narrow : Overriding := .parts { viewport := some ⟨800, 600⟩ }
    let refused : Overriding := .described (.obj [("viewport", .str "narrow")])
    let plain : List (Checked Profile) × Twister :=
      [Overriding.nothing, .nothing, .nothing].mapM all.generate (Twister.ofSeed 7)
    let given : List (Checked Profile) × Twister := [arabic, refused, narrow].mapM all.generate (Twister.ofSeed 7)
    (∃ p q, plain.1[0]? = some (.ok p) ∧ p ∈ allProfiles ∧ given.1[0]? = some (.ok q) ∧
      q.locale = "ar-SA" ∧ q.viewport = p.viewport) ∧
    ∃ p q, plain.1[2]? = some (.ok p) ∧ p ∈ allProfiles ∧ given.1[2]? = some (.ok q) ∧
      q.viewport = ⟨800, 600⟩ ∧ q.locale = p.locale := by
  intro arabic narrow refused plain given
  have hnarrow : narrow.Sets { viewport := some ⟨800, 600⟩ } := by
    refine ⟨rfl, fun v hv => ?_⟩
    cases hv
    exact ⟨by decide, by decide⟩
  have hpool : ∀ p ∈ all.profiles, p.IsValid := allProfiles_isValid
  obtain ⟨-, -, hk⟩ := overrides_leave_draw hpool (Twister.ofSeed 7) [arabic, refused, narrow]
  obtain ⟨p, q, hp, hmem, hq, -, hviewport, -, hlocale⟩ := hk 0 arabic { locale := some "ar-SA" } rfl rfl
  obtain ⟨p', q', hp', hmem', hq', -, hviewport', -, hlocale'⟩ := hk 2 narrow _ rfl hnarrow
  exact ⟨⟨p, q, hp, hmem, hq, hlocale.1 _ rfl, hviewport.2 rfl⟩,
    ⟨p', q', hp', hmem', hq', hviewport'.1 _ rfl, hlocale'.2 rfl⟩⟩

end ProfilePool

end BrowserPilot
