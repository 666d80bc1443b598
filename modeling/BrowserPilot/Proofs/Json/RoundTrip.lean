import BrowserPilot.Proofs.Json.Members
import BrowserPilot.Proofs.Json.Numbers
import BrowserPilot.Proofs.Json.Quotes

/-!
# Written values are read back

Every layout separates values by characters after which a number, a word or a
text is over, so that a value is read back from its text, whatever follows. The
objects are those that can be made: each name has one value.
-/

namespace BrowserPilot

namespace Json

/-! ## Blanks -/

def AreSpaces (cs : List Char) : Prop := ∀ c ∈ cs, isSpace c = true

theorem skipSpace_append {blanks : List Char} (h : AreSpaces blanks) (cs : List Char) :
    skipSpace (blanks ++ cs) = skipSpace cs := List.dropWhile_append_of_pos h

theorem skipSpace_cons {c : Char} (h : isSpace c = false) (cs : List Char) : skipSpace (c :: cs) = c :: cs :=
  List.dropWhile_cons_of_neg (by simp [h])

structure Style.IsReadable (s : Style) : Prop where
  separator : ∃ blanks, s.separator = ',' :: blanks ∧ AreSpaces blanks
  colon : ∃ blanks, s.colon = ':' :: blanks ∧ AreSpaces blanks
  keepsFraction : s.numbers.keepsFraction = true

theorem areSpaces_lineStart (s : Style) (depth : Nat) : AreSpaces (lineStart s depth) := by
  unfold lineStart
  cases s.indent with
  | none => exact nofun
  | some width =>
    intro c hc
    rcases List.mem_cons.mp hc with rfl | hc
    · rfl
    · rw [List.eq_of_mem_replicate hc]
      rfl

theorem areSpaces_append {as bs : List Char} (ha : AreSpaces as) (hb : AreSpaces bs) : AreSpaces (as ++ bs) :=
  fun c h => (List.mem_append.mp h).elim (ha c) (hb c)

theorem endsNumber_mark {c : Char} (hc : isAsciiDigit c = false ∧ c ≠ '.' ∧ c ≠ 'e' ∧ c ≠ 'E') (rest : List Char) :
    EndsNumber (c :: rest) := by
  rintro x ⟨⟩
  exact hc

/-- A number is over before blanks and before a mark that is no part of one. -/
theorem endsNumber_closed {blanks : List Char} (h : AreSpaces blanks) {c : Char}
    (hc : isAsciiDigit c = false ∧ c ≠ '.' ∧ c ≠ 'e' ∧ c ≠ 'E') (rest : List Char) : EndsNumber (blanks ++ c :: rest) := by
  have hspace : ∀ x, isSpace x = true → isAsciiDigit x = false ∧ x ≠ '.' ∧ x ≠ 'e' ∧ x ≠ 'E' := by
    intro x hx
    simp only [isSpace, Bool.or_eq_true, decide_eq_true_eq] at hx
    rcases hx with ((rfl | rfl) | rfl) | rfl <;> decide
  cases blanks with
  | nil => exact endsNumber_mark hc rest
  | cons b blanks => exact endsNumber_mark (hspace b (h b (by simp))) _

/-! ## The first character -/

def StartsValue (cs : List Char) : Prop := ∃ c rest, cs = c :: rest ∧ isSpace c = false ∧ c ≠ ']'

theorem readScalar_starts {fuel : Nat} {cs : List Char} {r : Json × List Char} (h : readScalar fuel cs = some r) :
    ∃ c rest, cs = c :: rest ∧ (isSpace c = false ∧ c ≠ ']') ∧ c ≠ '[' ∧ c ≠ '\x7b' := by
  unfold readScalar at h
  split at h
  case h_9 =>
    obtain ⟨c, rest, rfl, hc⟩ := readMagnitude_head h
    have hother : ∀ x, isAsciiDigit x = false → c ≠ x := by
      rintro x hx rfl
      rw [hx] at hc
      cases hc
    have hspace : isSpace c = false := by
      simp only [isSpace, Bool.or_eq_false_iff, decide_eq_false_iff_not]
      exact ⟨⟨⟨hother _ rfl, hother _ rfl⟩, hother _ rfl⟩, hother _ rfl⟩
    exact ⟨c, rest, rfl, ⟨hspace, hother _ rfl⟩, hother _ rfl, hother _ rfl⟩
  all_goals exact ⟨_, _, rfl, by decide⟩

theorem readValue_of_scalar {fuel : Nat} {cs : List Char} {r : Json × List Char} (h : readScalar fuel cs = some r) :
    readValue (fuel + 1) cs = some r := by
  obtain ⟨c, rest, rfl, -, harr, hobj⟩ := readScalar_starts h
  unfold readValue
  split
  · rename_i heq
    cases heq
  · rename_i heq
    exact absurd (List.cons.inj heq).1 harr
  · rename_i heq
    exact absurd (List.cons.inj heq).1 hobj
  · rename_i hfuel _ _
    cases hfuel
    exact h

/-- A value begins with no blank, and not with the end of an array. -/
theorem readValue_starts {fuel : Nat} {cs : List Char} {r : Json × List Char} (h : readValue fuel cs = some r) :
    StartsValue cs := by
  unfold readValue at h
  split at h
  · cases h
  · exact ⟨_, _, rfl, by decide⟩
  · exact ⟨_, _, rfl, by decide⟩
  · obtain ⟨c, rest, heq, hc, -⟩ := readScalar_starts h
    exact ⟨c, rest, heq, hc⟩

/-! ## Values -/

/-- Values that can be made: numbers are finite doubles, and the names of an
object are different. -/
inductive IsStorable : Json → Prop where
  | null : IsStorable .null
  | bool (b : Bool) : IsStorable (.bool b)
  | int (n : Int) : IsStorable (.int n)
  | num {x : Binary64} (hx : x.IsCanonical) : IsStorable (.num x)
  | str (s : String) : IsStorable (.str s)
  | arr {items : List Json} (h : ∀ v ∈ items, IsStorable v) : IsStorable (.arr items)
  | obj {members : Members} (hnames : (members.map (·.1)).Nodup) (h : ∀ kv ∈ members, IsStorable kv.2) :
    IsStorable (.obj members)

/-- A value is read back whatever follows it, with no more fuel than it has characters. -/
def ReadsBack (s : Style) (v : Json) : Prop := ∀ (depth fuel : Nat) (rest : List Char), EndsNumber rest →
  (write s depth v).length ≤ fuel → readValue fuel (write s depth v ++ rest) = some (v, rest)

section
variable {s : Style} {v : Json}

theorem ReadsBack.of_scalar (h : ∀ depth fuel rest, EndsNumber rest → (write s depth v).length ≤ fuel + 1 →
    readScalar fuel (write s depth v ++ rest) = some (v, rest)) : ReadsBack s v := by
  intro depth fuel rest hrest hfuel
  obtain ⟨c, cs, heq, -⟩ := readScalar_starts (h depth _ [] nofun (Nat.le_succ _))
  obtain ⟨fuel, rfl⟩ : ∃ n, fuel = n + 1 := by
    rw [List.append_nil] at heq
    rw [heq, List.length_cons] at hfuel
    exact ⟨fuel - 1, by omega⟩
  exact readValue_of_scalar (h depth fuel rest hrest hfuel)

theorem ReadsBack.starts (h : ReadsBack s v) (depth : Nat) (rest : List Char) : StartsValue (write s depth v ++ rest) := by
  obtain ⟨c, cs, heq, hc⟩ := readValue_starts (h depth _ [] nofun le_rfl)
  rw [List.append_nil] at heq
  exact ⟨c, cs ++ rest, by rw [heq, List.cons_append], hc⟩

theorem StartsValue.skipSpace {cs : List Char} (h : StartsValue cs) {blanks : List Char} (hblanks : AreSpaces blanks) :
    Json.skipSpace (blanks ++ cs) = cs := by
  obtain ⟨c, rest, rfl, hc, -⟩ := h
  rw [skipSpace_append hblanks, skipSpace_cons hc]

/-! ## Items and members -/

section
variable {fuel : Nat} {cs more blanks rest : List Char} (hblanks : AreSpaces blanks)
include hblanks

theorem readItems_last (h : readValue fuel cs = some (v, blanks ++ ']' :: rest)) :
    readItems (fuel + 1) cs = some ([v], rest) := by
  simp only [readItems, h, skipSpace_append hblanks, skipSpace_cons (c := ']') rfl]

theorem readItems_next {vs : List Json} (h : readValue fuel cs = some (v, ',' :: (blanks ++ more))) (hmore : StartsValue more)
    (hvs : readItems fuel more = some (vs, rest)) : readItems (fuel + 1) cs = some (v :: vs, rest) := by
  simp only [readItems, h, skipSpace_cons (c := ',') rfl, hmore.skipSpace hblanks, hvs, Option.map_some]

variable {k : String} {members : Members} {cs' gap : List Char} (hgap : AreSpaces gap)
  (hk : readText fuel cs = some (k, ':' :: (gap ++ cs'))) (hcs' : StartsValue cs')
include hgap hk hcs'

theorem readMembers_last (h : readValue fuel cs' = some (v, blanks ++ '\x7d' :: rest)) :
    readMembers (fuel + 1) ('"' :: cs) = some ([(k, v)], rest) := by
  simp only [readMembers, hk, skipSpace_cons (c := ':') rfl, hcs'.skipSpace hgap, h, skipSpace_append hblanks,
    skipSpace_cons (c := '\x7d') rfl]

theorem readMembers_next (h : readValue fuel cs' = some (v, ',' :: (blanks ++ more))) (hmore : StartsValue more)
    (hmembers : readMembers fuel more = some (members, rest)) :
    readMembers (fuel + 1) ('"' :: cs) = some ((k, v) :: members, rest) := by
  simp only [readMembers, hk, skipSpace_cons (c := ':') rfl, hcs'.skipSpace hgap, h, skipSpace_cons (c := ',') rfl,
    hmore.skipSpace hblanks, hmembers, Option.map_some]

end

theorem startsValue_quote (asciiOnly : Bool) (k : String) (rest : List Char) : StartsValue (quote asciiOnly k ++ rest) :=
  ⟨'"', _, rfl, by decide⟩

section
variable (hs : s.IsReadable) {depth fuel : Nat} {blanks : List Char} (hblanks : AreSpaces blanks) (rest : List Char)
include hs hblanks

theorem readItems_write {items : List Json} (h : ∀ w ∈ v :: items, ReadsBack s w)
    (hfuel : (write s depth v).length + (writeItems s depth items).length < fuel) :
    readItems fuel (write s depth v ++ (writeItems s depth items ++ (blanks ++ ']' :: rest))) = some (v :: items, rest) := by
  obtain ⟨seps, hsep, hseps⟩ := hs.separator
  induction items generalizing v fuel with
  | nil =>
    obtain ⟨fuel, rfl⟩ : ∃ n, fuel = n + 1 := ⟨fuel - 1, by omega⟩
    apply readItems_last hblanks
    exact h v (by simp) depth fuel _ (endsNumber_closed hblanks (by decide) rest) (by omega)
  | cons w items ih =>
    obtain ⟨fuel, rfl⟩ : ∃ n, fuel = n + 1 := ⟨fuel - 1, by omega⟩
    have hitems : writeItems s depth (w :: items) ++ (blanks ++ ']' :: rest) =
        ',' :: ((seps ++ lineStart s depth) ++ (write s depth w ++ (writeItems s depth items ++ (blanks ++ ']' :: rest)))) := by
      simp [writeItems, hsep]
    have hlength : (write s depth w).length + (writeItems s depth items).length < (writeItems s depth (w :: items)).length := by
      simp only [writeItems, hsep, List.length_append, List.length_cons]
      omega
    rw [hitems]
    apply readItems_next (areSpaces_append hseps (areSpaces_lineStart s depth))
    · exact h v (by simp) depth fuel _ (endsNumber_mark (by decide) _) (by omega)
    · exact (h w (by simp)).starts depth _
    · exact ih (fun x hx => h x (List.mem_cons_of_mem _ hx)) (by omega)

theorem readMembers_write {k : String} {members : Members} (h : ∀ kv ∈ (k, v) :: members, ReadsBack s kv.2)
    (hfuel : (quote s.asciiOnly k).length + (write s depth v).length + (writeMembers s depth members).length < fuel) :
    readMembers fuel (quote s.asciiOnly k ++ (s.colon ++ (write s depth v ++ (writeMembers s depth members ++
      (blanks ++ '\x7d' :: rest))))) = some ((k, v) :: members, rest) := by
  obtain ⟨seps, hsep, hseps⟩ := hs.separator
  obtain ⟨gap, hcolon, hgap⟩ := hs.colon
  induction members generalizing k v fuel with
  | nil =>
    obtain ⟨fuel, rfl⟩ : ∃ n, fuel = n + 1 := ⟨fuel - 1, by omega⟩
    have hv : ReadsBack s v := h (k, v) (by simp)
    obtain ⟨cs, hquote, hk⟩ := readText_quote s.asciiOnly k fuel (by omega)
      (s.colon ++ (write s depth v ++ (writeMembers s depth [] ++ (blanks ++ '\x7d' :: rest))))
    rw [hquote]
    rw [hcolon] at hk
    apply readMembers_last hblanks hgap hk (hv.starts depth _)
    exact hv depth fuel _ (endsNumber_closed hblanks (by decide) rest) (by omega)
  | cons kw members ih =>
    obtain ⟨k', w⟩ := kw
    obtain ⟨fuel, rfl⟩ : ∃ n, fuel = n + 1 := ⟨fuel - 1, by omega⟩
    have hv : ReadsBack s v := h (k, v) (by simp)
    have hmembers : writeMembers s depth ((k', w) :: members) ++ (blanks ++ '\x7d' :: rest) =
        ',' :: ((seps ++ lineStart s depth) ++ (quote s.asciiOnly k' ++ (s.colon ++ (write s depth w ++
          (writeMembers s depth members ++ (blanks ++ '\x7d' :: rest)))))) := by
      simp [writeMembers, hsep]
    have hlength : (quote s.asciiOnly k').length + (write s depth w).length + (writeMembers s depth members).length <
        (writeMembers s depth ((k', w) :: members)).length := by
      simp only [writeMembers, hsep, List.length_append, List.length_cons]
      omega
    rw [hmembers]
    obtain ⟨cs, hquote, hk⟩ := readText_quote s.asciiOnly k fuel (by omega)
      (s.colon ++ (write s depth v ++ (',' :: ((seps ++ lineStart s depth) ++ (quote s.asciiOnly k' ++ (s.colon ++
        (write s depth w ++ (writeMembers s depth members ++ (blanks ++ '\x7d' :: rest)))))))))
    rw [hquote]
    rw [hcolon, List.cons_append] at hk
    apply readMembers_next (areSpaces_append hseps (areSpaces_lineStart s depth)) hgap hk (hv.starts depth _)
    · exact hv depth fuel _ (endsNumber_mark (by decide) _) (by omega)
    · exact startsValue_quote s.asciiOnly k' _
    · rw [← hcolon]
      exact ih (fun x hx => h x (List.mem_cons_of_mem _ hx)) (by omega)

end

/-! ## The round trip -/

theorem readValue_arr {fuel : Nat} {cs blanks rest : List Char} {items : List Json} (hblanks : AreSpaces blanks)
    (hcs : StartsValue cs) (h : readItems fuel cs = some (items, rest)) :
    readValue (fuel + 1) ('[' :: (blanks ++ cs)) = some (.arr items, rest) := by
  obtain ⟨c, more, heq, -, hc⟩ := id hcs
  rw [readValue, hcs.skipSpace hblanks]
  split
  · exact absurd (List.cons.inj heq).1.symm hc
  · rw [h, Option.map_some]

theorem readValue_obj {fuel : Nat} {cs blanks rest : List Char} {asciiOnly : Bool} {k : String} {members : Members}
    (hblanks : AreSpaces blanks) (h : readMembers fuel (quote asciiOnly k ++ cs) = some (members, rest)) :
    readValue (fuel + 1) ('\x7b' :: (blanks ++ (quote asciiOnly k ++ cs))) = some (.obj (ofWritten members), rest) := by
  rw [readValue, (startsValue_quote asciiOnly k cs).skipSpace hblanks]
  split
  · rename_i heq
    exact absurd (List.cons.inj heq).1 (by decide)
  · rw [h, Option.map_some]

end

section
variable {s : Style} (hs : s.IsReadable)
include hs

theorem ReadsBack.arr {items : List Json} (h : ∀ w ∈ items, ReadsBack s w) : ReadsBack s (.arr items) := by
  intro depth fuel rest _ hfuel
  obtain ⟨fuel, rfl⟩ : ∃ n, fuel = n + 1 := ⟨fuel - 1, by cases items <;> simp [write] at hfuel <;> omega⟩
  cases items with
  | nil => simp only [write, List.cons_append, List.nil_append, readValue, skipSpace_cons (c := ']') rfl]
  | cons w items =>
    have hform : write s depth (.arr (w :: items)) ++ rest = '[' :: (lineStart s (depth + 1) ++ (write s (depth + 1) w ++
        (writeItems s (depth + 1) items ++ (lineStart s depth ++ ']' :: rest)))) := by simp [write]
    rw [hform]
    apply readValue_arr (areSpaces_lineStart s (depth + 1)) ((h w (by simp)).starts _ _)
    apply readItems_write hs (areSpaces_lineStart s depth) rest h
    simp only [write, List.length_cons, List.length_append, List.length_nil] at hfuel
    omega

theorem ReadsBack.obj {members : Members} (hnames : (members.map (·.1)).Nodup) (h : ∀ kv ∈ members, ReadsBack s kv.2) :
    ReadsBack s (.obj members) := by
  intro depth fuel rest _ hfuel
  obtain ⟨fuel, rfl⟩ : ∃ n, fuel = n + 1 := ⟨fuel - 1, by cases members <;> simp [write] at hfuel <;> omega⟩
  cases members with
  | nil => simp only [write, List.cons_append, List.nil_append, readValue, skipSpace_cons (c := '\x7d') rfl]
  | cons kw members =>
    obtain ⟨k, w⟩ := kw
    have hform : write s depth (.obj ((k, w) :: members)) ++ rest = '\x7b' :: (lineStart s (depth + 1) ++
        (quote s.asciiOnly k ++ (s.colon ++ (write s (depth + 1) w ++ (writeMembers s (depth + 1) members ++
          (lineStart s depth ++ '\x7d' :: rest)))))) := by simp [write]
    rw [hform, ← ofWritten_nodup hnames]
    apply readValue_obj (areSpaces_lineStart s (depth + 1))
    apply readMembers_write hs (areSpaces_lineStart s depth) rest h
    simp only [write, List.length_cons, List.length_append, List.length_nil] at hfuel
    omega

end

theorem IsStorable.readsBack {s : Style} (hs : s.IsReadable) {v : Json} (h : v.IsStorable) : ReadsBack s v := by
  induction h with
  | null =>
    apply ReadsBack.of_scalar
    intro depth fuel rest _ _
    simp [write, readScalar, readWord]
  | bool b =>
    apply ReadsBack.of_scalar
    intro depth fuel rest _ _
    cases b <;> simp [write, readScalar, readWord]
  | int n =>
    apply ReadsBack.of_scalar
    intro depth fuel rest hrest _
    rw [write]
    exact readScalar_int fuel n hrest
  | @num x hx =>
    apply ReadsBack.of_scalar
    intro depth fuel rest hrest _
    have htext : numberText s x = (x.text s.numbers).toList := by
      cases x with
      | finite => rfl
      | _ => cases hx
    rw [write, htext]
    exact readScalar_num fuel hs.keepsFraction hx hrest
  | str t =>
    apply ReadsBack.of_scalar
    intro depth fuel rest _ hfuel
    rw [write] at hfuel ⊢
    obtain ⟨cs, hquote, hread⟩ := readText_quote s.asciiOnly t fuel hfuel rest
    rw [hquote]
    simp only [readScalar, hread, Option.map_some]
  | arr _ ih => exact ReadsBack.arr hs ih
  | obj hnames _ ih => exact ReadsBack.obj hs hnames ih

/-- **Every value is read back from its text.** -/
theorem parse_render {s : Style} (hs : s.IsReadable) {v : Json} (h : v.IsStorable) : parse (render s v) = some v := by
  have hback := h.readsBack hs
  have hstart := hback.starts 0 []
  rw [List.append_nil] at hstart
  have hread := hback 0 (2 * (write s 0 v).length + 2) [] nofun (by omega)
  rw [List.append_nil] at hread
  have hnone : AreSpaces [] := nofun
  have hskip : skipSpace (write s 0 v) = write s 0 v := hstart.skipSpace hnone
  unfold parse render
  simp only [String.toList_ofList, hskip, hread]
  rfl

theorem isReadable_styles (width : Nat) :
    ∀ s ∈ [Style.compact, .indented width, .spaced, .listed, .shown, .filed], s.IsReadable := by
  have hnone : AreSpaces [] := nofun
  have hblank : AreSpaces [' '] := by simp [AreSpaces, isSpace]
  intro s hs
  simp only [List.mem_cons, List.not_mem_nil, or_false] at hs
  rcases hs with rfl | rfl | rfl | rfl | rfl | rfl
  · exact ⟨⟨[], rfl, hnone⟩, ⟨[], rfl, hnone⟩, rfl⟩
  · exact ⟨⟨[], rfl, hnone⟩, ⟨[' '], rfl, hblank⟩, rfl⟩
  · exact ⟨⟨[' '], rfl, hblank⟩, ⟨[' '], rfl, hblank⟩, rfl⟩
  · exact ⟨⟨[' '], rfl, hblank⟩, ⟨[' '], rfl, hblank⟩, rfl⟩
  · exact ⟨⟨[], rfl, hnone⟩, ⟨[' '], rfl, hblank⟩, rfl⟩
  · exact ⟨⟨[], rfl, hnone⟩, ⟨[' '], rfl, hblank⟩, rfl⟩

end Json

end BrowserPilot
