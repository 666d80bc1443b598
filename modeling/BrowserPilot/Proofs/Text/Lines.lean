import BrowserPilot.Text.Blank
import BrowserPilot.Text.Lines

/-!
# Lines and blanks

Lines that hold no break come back from the text in which each is followed by
a line feed.
-/

namespace BrowserPilot.Text

/-! ## Breaks -/

theorem linesFrom_noBreak {cs acc l : List Char} (hacc : ∀ c ∈ acc, isBreak c = false) (h : l ∈ linesFrom acc cs) :
    ∀ c ∈ l, isBreak c = false := by
  induction acc, cs using linesFrom.induct with
  | case1 acc hempty => simp [linesFrom, hempty] at h
  | case2 acc hempty =>
    rw [linesFrom, if_neg hempty, List.mem_singleton] at h
    subst h
    simpa using hacc
  | case3 acc rest ih =>
    rw [linesFrom] at h
    rcases List.mem_cons.mp h with rfl | h
    · simpa using hacc
    · exact ih (by simp) h
  | case4 acc c rest hcr hb ih =>
    rw [linesFrom.eq_3 _ _ _ hcr, if_pos hb] at h
    rcases List.mem_cons.mp h with rfl | h
    · simpa using hacc
    · exact ih (by simp) h
  | case5 acc c rest hcr hb ih =>
    rw [linesFrom.eq_3 _ _ _ hcr, if_neg hb] at h
    refine ih ?_ h
    intro x hx
    rcases List.mem_cons.mp hx with rfl | hx
    · simpa using hb
    · exact hacc x hx

theorem lines_noBreak {cs l : List Char} (h : l ∈ lines cs) : ∀ c ∈ l, isBreak c = false :=
  linesFrom_noBreak (by simp) h

theorem linesFrom_append {l : List Char} (hl : ∀ c ∈ l, isBreak c = false) (acc rest : List Char) :
    linesFrom acc (l ++ '\n' :: rest) = (acc.reverse ++ l) :: linesFrom [] rest := by
  induction l generalizing acc with
  | nil =>
    rw [List.nil_append, linesFrom.eq_3 _ _ _ (by simp), if_pos (by decide), List.append_nil]
  | cons c l ih =>
    have hc : isBreak c = false := hl c (by simp)
    have hcr : ∀ rest', c = '\r' → l ++ '\n' :: rest = '\n' :: rest' → False := by
      rintro _ rfl _
      exact absurd hc (by decide)
    rw [List.cons_append, linesFrom.eq_3 _ _ _ hcr, if_neg (by simp [hc]), ih fun x hx => hl x (by simp [hx])]
    simp

/-- Lines without breaks, each followed by a line feed, are read back. -/
theorem lines_flatMap {ls : List (List Char)} (h : ∀ l ∈ ls, ∀ c ∈ l, isBreak c = false) :
    lines (ls.flatMap fun l => l ++ ['\n']) = ls := by
  induction ls with
  | nil => rfl
  | cons l ls ih =>
    rw [lines, List.flatMap_cons, List.append_assoc, List.singleton_append, linesFrom_append (h l (by simp)) [],
      List.reverse_nil, List.nil_append]
    exact congrArg _ (ih fun l' hl' => h l' (by simp [hl']))

/-! ## Texts that end a line -/

def EndsLine (cs : List Char) : Prop := ∀ c, cs.getLast? = some c → isBreak c = true

theorem EndsLine.of_getLast? {c : Char} {cs : List Char} (hc : cs.getLast? = some c) (hb : isBreak c = true) :
    EndsLine cs := by
  intro d hd
  rw [hc] at hd
  rwa [← Option.some.inj hd]

theorem EndsLine.tail {c : Char} {cs : List Char} (h : EndsLine (c :: cs)) : EndsLine cs := by
  intro d hd
  apply h
  simp [List.getLast?_cons, hd]

theorem linesFrom_append_of_endsLine {cs rest : List Char} (hr : rest.head? ≠ some '\n') (acc : List Char)
    (h : EndsLine cs) (hacc : cs = [] → acc = []) : linesFrom acc (cs ++ rest) = linesFrom acc cs ++ lines rest := by
  induction acc, cs using linesFrom.induct with
  | case1 acc _ =>
    rw [hacc rfl]
    rfl
  | case2 acc hne =>
    rw [hacc rfl] at hne
    exact absurd rfl hne
  | case3 acc cs ih =>
    simp only [List.cons_append, linesFrom]
    rw [ih h.tail.tail fun _ => rfl]
  | case4 acc c cs hcr hb ih =>
    have hcr' : ∀ more, c = '\r' → cs ++ rest = '\n' :: more → False := by
      intro more hc hmore
      cases cs with
      | nil =>
        apply hr
        rw [show rest = '\n' :: more from hmore]
        rfl
      | cons d cs =>
        have hd : d = '\n' := (List.cons.inj hmore).1
        exact hcr cs hc (by rw [hd])
    rw [List.cons_append, linesFrom.eq_3 _ _ _ hcr', if_pos hb, linesFrom.eq_3 _ _ _ hcr, if_pos hb,
      ih h.tail fun _ => rfl, List.cons_append]
  | case5 acc c cs hcr hb ih =>
    have hne : cs ≠ [] := by
      rintro rfl
      exact hb (h c rfl)
    have hcr' : ∀ more, c = '\r' → cs ++ rest = '\n' :: more → False := by
      rintro more rfl _
      exact hb (by decide)
    rw [List.cons_append, linesFrom.eq_3 _ _ _ hcr', if_neg hb, linesFrom.eq_3 _ _ _ hcr, if_neg hb,
      ih h.tail fun he => absurd he hne]

theorem lines_append {cs rest : List Char} (h : EndsLine cs) (hr : rest.head? ≠ some '\n') :
    lines (cs ++ rest) = lines cs ++ lines rest :=
  linesFrom_append_of_endsLine hr [] h fun _ => rfl

/-! ## Blanks -/

theorem mem_of_mem_trim {c : Char} {cs : List Char} (h : c ∈ trim cs) : c ∈ cs := by
  rw [trim, trimBy, List.mem_reverse] at h
  have := (List.dropWhile_sublist _).subset h
  rw [List.mem_reverse] at this
  exact (List.dropWhile_sublist _).subset this

theorem dropWhile_of_head? {p : Char → Bool} {l : List Char} {c : Char} (h : l.head? = some c) (hp : p c = false) :
    l.dropWhile p = l := by
  cases l with
  | nil => rfl
  | cons c' l =>
    cases h
    exact List.dropWhile_cons_of_neg (by simp [hp])

theorem trim_self {l : List Char} {c d : Char} (hc : l.head? = some c) (hd : l.getLast? = some d) (hb : isBlank c = false)
    (hb' : isBlank d = false) : trim l = l := by
  have hr : l.reverse.dropWhile isBlank = l.reverse := dropWhile_of_head? (by rwa [List.head?_reverse]) hb'
  rw [trim, trimBy, dropWhile_of_head? hc hb, hr, List.reverse_reverse]

theorem trim_indented {indent l : List Char} {c d : Char} (hi : indent.all isBlank = true) (hc : l.head? = some c)
    (hd : l.getLast? = some d) (hb : isBlank c = false) (hb' : isBlank d = false) : trim (indent ++ l) = l := by
  have hskip : (indent ++ l).dropWhile isBlank = l.dropWhile isBlank :=
    List.dropWhile_append_of_pos (List.all_eq_true.mp hi)
  calc trim (indent ++ l) = trim l := by rw [trim, trimBy, hskip, trim, trimBy]
    _ = l := trim_self hc hd hb hb'

end BrowserPilot.Text
