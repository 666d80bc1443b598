import BrowserPilot.Json.Literal

/-!
# Countermeasures

What a session does so that its browser is not taken for an automated one, in
groups that can be switched one by one, and the levels that stand for a choice
of groups.
-/

namespace BrowserPilot

structure Countermeasures where
  hidesAutomation : Bool := true
  spoofsNavigator : Bool := true
  masksFingerprint : Bool := true
  masksHardware : Bool := false
  /-- Pointer, keyboard and wheel move at human pace. -/
  humanInput : Bool := true
  clearsCookies : Bool := true
  deriving DecidableEq, Repr

namespace Countermeasures

def toJson (c : Countermeasures) : Json :=
  .obj [("hide_automation", .bool c.hidesAutomation), ("spoof_navigator", .bool c.spoofsNavigator),
    ("mask_fingerprint", .bool c.masksFingerprint), ("mask_hardware_apis", .bool c.masksHardware),
    ("human_input", .bool c.humanInput), ("clear_cookies", .bool c.clearsCookies)]

def set? (name : String) (on : Bool) (c : Countermeasures) : Option Countermeasures :=
  match name with
  | "hide_automation" => some { c with hidesAutomation := on }
  | "spoof_navigator" => some { c with spoofsNavigator := on }
  | "mask_fingerprint" => some { c with masksFingerprint := on }
  | "mask_hardware_apis" => some { c with masksHardware := on }
  | "human_input" => some { c with humanInput := on }
  | "clear_cookies" => some { c with clearsCookies := on }
  | _ => none

end Countermeasures

inductive StealthLevel where
  | basic | advanced | maximum
  deriving DecidableEq, Repr

namespace StealthLevel

def all : List StealthLevel := [basic, advanced, maximum]

def name : StealthLevel → String
  | basic => "basic"
  | advanced => "advanced"
  | maximum => "maximum"

def ofName? (s : String) : Option StealthLevel := all.find? fun l => l.name == s

def unknown (s : String) : String := Json.literalText s ++ " is not a valid StealthLevel"

def countermeasures : StealthLevel → Countermeasures
  | basic => { masksFingerprint := false, humanInput := false }
  | advanced => {}
  | maximum => { masksHardware := true }

end StealthLevel

end BrowserPilot
