import BrowserPilot.Json.Basic

/-!
# Browser actions

What a step does on a page: the kind of action with the parameters that this
kind has.
-/

namespace BrowserPilot

inductive ActionKind where
  | navigate | click | type | wait | extract | screenshot | scroll
  deriving DecidableEq, Repr

namespace ActionKind

def all : List ActionKind := [navigate, click, type, wait, extract, screenshot, scroll]

def name : ActionKind → String
  | navigate => "navigate"
  | click => "click"
  | type => "type"
  | wait => "wait"
  | extract => "extract"
  | screenshot => "screenshot"
  | scroll => "scroll"

/-- The name of the record that holds the parameters. -/
def model : ActionKind → String
  | navigate => "NavigateParams"
  | click => "ClickParams"
  | type => "TypeParams"
  | wait => "WaitParams"
  | extract => "ExtractParams"
  | screenshot => "ScreenshotParams"
  | scroll => "ScrollParams"

def tag (k : ActionKind) : String := "<ActionType." ++ k.name.toUpper ++ ": '" ++ k.name ++ "'>"

def ofName? (s : String) : Option ActionKind := all.find? fun k => k.name == s

end ActionKind

/-- A wait lasts a fixed time or until an element is there. -/
inductive WaitMode where
  | time | selector
  deriving DecidableEq, Repr

inductive ScrollTarget where
  | bottom
  | pixels (n : Nat)
  deriving DecidableEq, Repr

inductive ScrollDirection where
  | up | down
  deriving DecidableEq, Repr

def WaitMode.name : WaitMode → String
  | .time => "time"
  | .selector => "selector"

def ScrollDirection.name : ScrollDirection → String
  | .up => "up"
  | .down => "down"

inductive Action where
  | navigate (url : String)
  | click (selector : String)
  | type (selector text : String)
  | wait (mode : WaitMode) (durationMs : Nat) (selector : String)
  | extract (selector : String)
  | screenshot (fullPage : Bool)
  | scroll (target : ScrollTarget) (direction : ScrollDirection)
  deriving DecidableEq, Repr

namespace Action

def kind : Action → ActionKind
  | navigate .. => .navigate
  | click .. => .click
  | type .. => .type
  | wait .. => .wait
  | extract .. => .extract
  | screenshot .. => .screenshot
  | scroll .. => .scroll

def parameters : Action → Json.Members
  | navigate url => [("url", .str url)]
  | click selector => [("selector", .str selector)]
  | type selector text => [("selector", .str selector), ("text", .str text)]
  | wait mode durationMs selector =>
    [("mode", .str mode.name), ("duration_ms", .ofNat durationMs), ("selector", .str selector)]
  | extract selector => [("selector", .str selector)]
  | screenshot fullPage => [("full_page", .bool fullPage)]
  | scroll target direction =>
    [("position", match target with | .bottom => .str "end" | .pixels n => .ofNat n),
      ("direction", .str direction.name)]

def members (a : Action) : Json.Members := ("action", .str a.kind.name) :: a.parameters

def toJson (a : Action) : Json := .obj a.members

def texts : Action → List String
  | navigate url => [url]
  | click selector | extract selector => [selector]
  | type selector text => [selector, text]
  | wait _ _ selector => [selector]
  | screenshot _ | scroll .. => []

end Action

end BrowserPilot
