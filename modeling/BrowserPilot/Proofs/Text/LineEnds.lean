import BrowserPilot.Text.Lines
import BrowserPilot.Text.Replace

/-!
# Line ends

Making every line end a line feed is two replacements, and it moves no line:
the characters that end a line without being a line feed or a carriage return
stay, and a carriage return before a line feed ends one line together with it.
-/

namespace BrowserPilot.Text

/-! ## As replacements -/

theorem replaceAll_single (a b : Char) (cs : List Char) :
    replaceAll [a] [b] cs = cs.map fun c => if c = a then b else c := by
  rw [replaceAll]
  induction cs with
  | nil => rfl
  | cons c cs ih =>
    rw [replaceFrom, List.map_cons]
    by_cases h : c = a
    · simp [h, ih]
    · simp [h, Ne.symm h, ih]

theorem unifyLineEnds_eq_map (cs : List Char) :
    unifyLineEnds cs = (replaceAll ['\r', '\n'] ['\n'] cs).map fun c => if c = '\r' then '\n' else c := by
  rw [replaceAll]
  induction cs using unifyLineEnds.induct with
  | case1 => rfl
  | case2 rest ih =>
    have hyes : List.isPrefixOf ['\r', '\n'] ('\r' :: '\n' :: rest) = true := by simp
    rw [unifyLineEnds, replaceFrom, if_pos hyes, ih]
    rfl
  | case3 c rest hcr ih =>
    have hno : ¬ List.isPrefixOf ['\r', '\n'] (c :: rest) = true := by
      intro h
      obtain ⟨more, hmore⟩ := List.isPrefixOf_iff_prefix.mp h
      obtain ⟨hc, hrest⟩ := List.cons.inj hmore
      exact hcr more hc.symm hrest.symm
    rw [unifyLineEnds.eq_3 _ _ hcr, replaceFrom, if_neg hno, List.map_cons, ih]

/-- First both characters together become a line feed, then each carriage
return that is left. -/
theorem unifyLineEnds_eq (cs : List Char) : unifyLineEnds cs = replaceEach [("\r\n", "\n"), ("\r", "\n")] cs := by
  rw [unifyLineEnds_eq_map, ← replaceAll_single]
  rfl

/-! ## The lines stay -/

theorem linesFrom_lineFeed (acc rest : List Char) : linesFrom acc ('\n' :: rest) = acc.reverse :: linesFrom [] rest := by
  rw [linesFrom.eq_3 _ _ _ (by simp)]
  rfl

theorem linesFrom_unifyLineEnds (acc cs : List Char) : linesFrom acc (unifyLineEnds cs) = linesFrom acc cs := by
  induction acc, cs using linesFrom.induct with
  | case1 acc _ => rfl
  | case2 acc _ => rfl
  | case3 acc rest ih => rw [unifyLineEnds, linesFrom_lineFeed, ih, linesFrom]
  | case4 acc c rest hcr hb ih =>
    rw [unifyLineEnds.eq_3 _ _ hcr, linesFrom.eq_3 _ _ rest hcr, if_pos hb]
    by_cases h : c = '\r'
    · rw [if_pos h, linesFrom_lineFeed, ih]
    · have hcr' : ∀ more, c = '\r' → unifyLineEnds rest = '\n' :: more → False := fun _ hc _ => h hc
      rw [if_neg h, linesFrom.eq_3 _ _ _ hcr', if_pos hb, ih]
  | case5 acc c rest hcr hb ih =>
    have h : c ≠ '\r' := by
      intro hc
      apply hb
      rw [hc]
      rfl
    have hcr' : ∀ more, c = '\r' → unifyLineEnds rest = '\n' :: more → False := fun _ hc _ => h hc
    rw [unifyLineEnds.eq_3 _ _ hcr, if_neg h, linesFrom.eq_3 _ _ _ hcr', if_neg hb, ih, linesFrom.eq_3 _ _ rest hcr,
      if_neg hb]

theorem lines_unifyLineEnds (cs : List Char) : lines (unifyLineEnds cs) = lines cs := linesFrom_unifyLineEnds [] cs

end BrowserPilot.Text
