import BrowserPilot.Proofs.Text.LineEnds
import BrowserPilot.Proofs.Text.Utf8
import BrowserPilot.Script.Compiler
import BrowserPilot.Script.File

/-!
# Scripts from files

It makes no difference to a compiled script whether its text came through a
file. The file gives the text with other line ends, and compiling looks at the
lines only.
-/

namespace BrowserPilot.Script

open Text (lines unifyLineEnds)

theorem ofBytes_toUTF8 (text : String) :
    ofBytes text.toUTF8.data.toList = .ok (String.ofList (unifyLineEnds text.toList)) := by
  rw [ofBytes, Text.Utf8.decode_toUTF8]
  rfl

section
variable {script script' : String} (h : lines script.toList = lines script'.toList)
include h

theorem compile_of_lines (retries : Int) : compile retries script = compile retries script' := by
  have hwith : ∀ n, compileWith n script = compileWith n script' := by
    intro n
    rw [compileWith, h, compileWith]
  simp only [compile, hwith]

theorem Compiler.compile_of_lines (c : Compiler) : c.compile script = c.compile script' := by
  rw [Compiler.compile, h, Compiler.compile]

end

/-- A file with the encoding of a text is read, and gives the text with each
line end a line feed. Compiling that gives the steps and the warnings, or the
error, that compiling the text gives, whatever compiler is used. -/
theorem file_compiles_as_text (text : String) :
    ∃ loaded, ofBytes text.toUTF8.data.toList = .ok loaded ∧
      loaded.toList = Text.replaceEach [("\r\n", "\n"), ("\r", "\n")] text.toList ∧
      (∀ retries, compile retries loaded = compile retries text) ∧
      ∀ c : Compiler, c.compile loaded = c.compile text := by
  refine ⟨String.ofList (unifyLineEnds text.toList), ofBytes_toUTF8 text, ?_, ?_, ?_⟩
  · rw [String.toList_ofList, Text.unifyLineEnds_eq]
  · apply compile_of_lines
    rw [String.toList_ofList, Text.lines_unifyLineEnds]
  · apply Compiler.compile_of_lines
    rw [String.toList_ofList, Text.lines_unifyLineEnds]

end BrowserPilot.Script
