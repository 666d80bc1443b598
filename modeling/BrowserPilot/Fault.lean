import BrowserPilot.Json.Literal

/-!
# Faults

What can go wrong while a session runs, by cause. A fault of a primitive can
be retried; a failed launch ends the session.
-/

namespace BrowserPilot

/-- A failure of a primitive, which the policy of the step applies to. -/
inductive StepFault where
  | general (message context : String)
  | elementNotFound (selector reason : String)
  | navigationTimeout (url : String) (timeoutMs : Int)
  | navigationFailed (url reason : String)
  | waitTimeout (selector : String) (timeoutMs : Int)
  | scriptFailed (message context : String)
  deriving DecidableEq, Repr

namespace StepFault

def message : StepFault → String
  | general message _ | scriptFailed message _ => message
  | elementNotFound selector reason =>
    "Element not found: " ++ selector ++ (if reason.isEmpty then "" else ": " ++ reason)
  | navigationTimeout url ms => "Navigation to " ++ url ++ " timed out after " ++ toString ms ++ "ms"
  | navigationFailed url reason => "Navigation to " ++ url ++ " failed: " ++ reason
  | waitTimeout selector ms => "Timed out after " ++ toString ms ++ "ms waiting for " ++ selector

/-- The selector or address that the failing primitive was working on. -/
def context : StepFault → String
  | general _ context | scriptFailed _ context => context
  | elementNotFound selector _ | waitTimeout selector _ => selector
  | navigationTimeout url _ | navigationFailed url _ => url

def kind : StepFault → String
  | general .. => "StepError"
  | elementNotFound .. => "ElementNotFound"
  | navigationTimeout .. => "NavigationTimeout"
  | navigationFailed .. => "NavigationError"
  | waitTimeout .. => "StepTimeout"
  | scriptFailed .. => "ScriptExecutionError"

end StepFault

inductive Fault where
  | step (f : StepFault)
  /-- The browser could not be started, or is used before it was. -/
  | sessionInit (message : String)
  | illegalTransition (current requested : String)
  /-- A fault of the library that has no kind of its own. -/
  | general (message : String)
  /-- The driven browser refused a call, or did not answer in time. -/
  | browser (timedOut : Bool) (message : String)
  /-- Anything else, with the name of its kind. -/
  | foreign (kind message : String)
  deriving DecidableEq, Repr

namespace Fault

def message : Fault → String
  | step f => f.message
  | sessionInit message | general message | browser _ message | foreign _ message => message
  | illegalTransition current requested => "Illegal transition " ++ current ++ " -> " ++ requested

def kind : Fault → String
  | step f => f.kind
  | sessionInit _ => "SessionInitError"
  | illegalTransition .. => "StateTransitionError"
  | general _ => "StealthRunError"
  | browser timedOut _ => if timedOut then "TimeoutError" else "Error"
  | foreign kind _ => kind

/-- The wider kinds of faults this one belongs to, nearest first. -/
def families : Fault → List String
  | step (.general ..) => ["StealthRunError"]
  | step _ => ["StepError", "StealthRunError"]
  | sessionInit _ | illegalTransition .. => ["StealthRunError"]
  | general _ | browser .. | foreign .. => []

def details : Fault → Json.Members
  | step f =>
    ("context", .str f.context) :: match f with
      | .general .. | .scriptFailed .. => []
      | .elementNotFound selector _ => [("selector", .str selector)]
      | .navigationTimeout url ms => [("url", .str url), ("timeout_ms", .int ms)]
      | .navigationFailed url reason => [("url", .str url), ("reason", .str reason)]
      | .waitTimeout selector ms => [("selector", .str selector), ("timeout_ms", .int ms)]
  | illegalTransition current requested => [("current", .str current), ("requested", .str requested)]
  | _ => []

/-- A fault as the policy of a step sees it: one that is no step fault is
wrapped, with its kind in the message. -/
def asStepFault (id : String) : Fault → StepFault
  | step f => f
  | f => .scriptFailed ("Unexpected " ++ f.kind ++ ": " ++ f.message) id

end Fault

end BrowserPilot
