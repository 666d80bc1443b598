import BrowserPilot.Browser.Extract
import BrowserPilot.Fault
import BrowserPilot.Session.StepStatus
import BrowserPilot.Text.Base64

/-!
# Outcomes of primitives

What an attempt at an action ends with: a result, or a fault.
-/

namespace BrowserPilot

inductive Result where
  | nothing
  | elements (found : List Extract)
  | image (bytes : List UInt8)
  deriving Repr

inductive Outcome where
  | finished (r : Result)
  | raised (f : Fault)
  deriving Repr

namespace StepStatus

def notAnImage (given : String) : Fault :=
  .foreign "TypeError" ("a bytes-like object is required, not '" ++ given ++ "'")

/-- Keeps the result of an action: an image as text, other results as output. -/
def store (k : ActionKind) (r : Result) (s : StepStatus) : Except Fault StepStatus :=
  match k, r with
  | .screenshot, .image bytes => .ok { s with screenshot := some (String.ofList (Text.Base64.encode bytes)) }
  | .screenshot, .nothing => .error (notAnImage "NoneType")
  | .screenshot, .elements _ => .error (notAnImage "list")
  | _, .elements found => .ok { s with output := .arr (found.map Extract.toJson) }
  | _, _ => .ok s

end StepStatus

end BrowserPilot
