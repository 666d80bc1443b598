import BrowserPilot.Text.Lines
import BrowserPilot.Text.Utf8

/-!
# Script files

A script file holds text in UTF-8; every kind of line end in it becomes a line
feed.
-/

namespace BrowserPilot.Script

def ofBytes (bytes : List UInt8) : Except Text.Utf8.Fault String :=
  (Text.Utf8.decode bytes).map fun cs => String.ofList (Text.unifyLineEnds cs)

end BrowserPilot.Script
