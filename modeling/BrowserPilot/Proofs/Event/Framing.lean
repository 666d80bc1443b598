import BrowserPilot.Proofs.Event.Attribution
import BrowserPilot.Proofs.Json.OneLine
import BrowserPilot.Proofs.Json.RoundTrip
import BrowserPilot.Text.Split

/-!
# One line for every event

A stream of events is cut at its line breaks into the texts of the events, since
nothing that an event carries breaks a line. Each text is read back as its event.
-/

namespace BrowserPilot

theorem Text.splitOn_append {c : Char} {cs : List Char} (h : c ∉ cs) (rest : List Char) :
    splitOn [c] (cs ++ c :: rest) = cs :: splitOn [c] rest := by
  unfold splitOn
  induction cs with
  | nil => simp [splitFrom]
  | cons x cs ih =>
    rw [List.mem_cons, not_or] at h
    rw [List.cons_append, splitFrom, ih h.2]
    simp [h.1]

namespace Event

variable {e : Event}

theorem isStorable_toJson (h : (Json.obj e.data).IsStorable) : e.toJson.IsStorable := by
  apply Json.IsStorable.obj (by simp)
  intro kv hkv
  simp only [List.mem_cons, List.not_mem_nil, or_false] at hkv
  rcases hkv with rfl | rfl | rfl | rfl
  · exact .str _
  · exact .str _
  · exact .str _
  · exact h

theorem parse_line (h : (Json.obj e.data).IsStorable) : Json.parse e.line = some e.toJson :=
  Json.parse_render (Json.isReadable_styles 0 _ (by simp)) (isStorable_toJson h)

theorem not_mem_line (e : Event) : '\n' ∉ e.line.toList := by
  have hline : Json.Style.compact.IsOneLine := ⟨rfl, by decide, by decide⟩
  rw [line, Json.render, String.toList_ofList]
  exact Json.not_mem_write hline 0 e.toJson

theorem read_toJson (now : Instant) (e : Event) : read now e.toJson = .ok e := by
  obtain ⟨kind, timestamp, sessionId, data⟩ := e
  cases kind <;> rfl

end Event

theorem Sink.written_afterAll {s : Sink} (hs : s.kind = .stream) (events : List Event) :
    (s.afterAll events).written.toList = s.written.toList ++ events.flatMap fun e => e.line.toList ++ ['\n'] := by
  induction events generalizing s with
  | nil => simp [afterAll]
  | cons e events ih =>
    have hstep : (s.handle e).1 = { s with written := s.written ++ e.line ++ "\n" } := by
      unfold handle
      rw [hs]
    have hkind : (s.handle e).1.kind = .stream := by rw [hstep, hs]
    show ((s.handle e).1.afterAll events).written.toList = _
    rw [ih hkind, hstep, List.flatMap_cons]
    simp

/-- An event with breaks, quotes and line separators in all of its texts. -/
private def hostile : Event where
  kind := .log
  timestamp := "2024-01-01T00:00:00+00:00"
  sessionId := "a\nb\"c\\"
  data := [("\u2028\x00", .arr [.num (.nearest false 1 10), .null, .int (-7)]), ("\u0085", .obj [("", .str "\r\n\t")])]

end BrowserPilot
