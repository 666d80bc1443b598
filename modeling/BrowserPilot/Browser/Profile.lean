import BrowserPilot.Schema.Reader
import BrowserPilot.Text.Search

/-!
# Browser profiles

The identity that a session shows: user agent, window size, time zone and
language. The parts of a profile belong together.
-/

namespace BrowserPilot

open Schema

structure Viewport where
  width : Nat
  height : Nat
  deriving DecidableEq, Repr

namespace Viewport

def toJson (v : Viewport) : Json := .obj [("width", .ofNat v.width), ("height", .ofNat v.height)]

def read : Reader Viewport :=
  record "Viewport" fun m =>
    Checked.ap ((required "width" positive m).map Viewport.mk) (required "height" positive m)

end Viewport

structure Profile where
  userAgent : String
  viewport : Viewport
  timezone : String
  locale : String
  deriving DecidableEq, Repr

namespace Profile

def members (p : Profile) : Json.Members :=
  [("user_agent", .str p.userAgent), ("viewport", p.viewport.toJson), ("timezone", .str p.timezone),
    ("locale", .str p.locale)]

def toJson (p : Profile) : Json := .obj p.members

def read : Reader Profile :=
  record "SessionProfile" fun m =>
    (((Checked.ap ((required "user_agent" text m).map Profile.mk) (required "viewport" Viewport.read m)).ap
      (required "timezone" text m)).ap (required "locale" text m))

def language (locale : String) : String := String.ofList (locale.toList.takeWhile (· ≠ '-'))

/-- The languages the browser prefers, in order; English is always among them. -/
def languages (p : Profile) : List String :=
  let primary := language p.locale
  [p.locale] ++ (if primary = p.locale then [] else [primary]) ++ (if primary = "en" then [] else ["en-US", "en"])

def mentions (part whole : String) : Bool := Text.contains part.toList whole.toList

def platform (p : Profile) : String :=
  if mentions "Windows" p.userAgent then "Win32"
  else if mentions "Macintosh" p.userAgent then "MacIntel"
  else "Linux x86_64"

end Profile

structure ProfileOverrides where
  userAgent : Option String := none
  viewport : Option Viewport := none
  timezone : Option String := none
  locale : Option String := none
  deriving DecidableEq, Repr

namespace ProfileOverrides

def toJson (o : ProfileOverrides) : Json :=
  .obj [("user_agent", .ofOption .str o.userAgent), ("viewport", .ofOption Viewport.toJson o.viewport),
    ("timezone", .ofOption .str o.timezone), ("locale", .ofOption .str o.locale)]

def read : Reader ProfileOverrides :=
  record "ProfileOverrides" fun m =>
    (((Checked.ap ((optional "user_agent" none (orNothing text) m).map ProfileOverrides.mk)
      (optional "viewport" none (orNothing Viewport.read) m)).ap
      (optional "timezone" none (orNothing text) m)).ap (optional "locale" none (orNothing text) m))

def members (o : ProfileOverrides) : Json.Members :=
  let part (name : String) (v : Option Json) : Json.Members := (v.map fun v => (name, v)).toList
  part "user_agent" (o.userAgent.map .str) ++ part "viewport" (o.viewport.map Viewport.toJson) ++
    part "timezone" (o.timezone.map .str) ++ part "locale" (o.locale.map .str)

/-- A profile with the parts that are set in place of its own. It is read again
as a whole, unless nothing is set. -/
def replaceIn (o : ProfileOverrides) (p : Profile) : Checked Profile :=
  if o.members.isEmpty then .ok p else Profile.read (.obj (Json.override p.members o.members))

end ProfileOverrides

inductive Overriding where
  | nothing
  | parts (o : ProfileOverrides)
  | described (v : Json)

namespace Overriding

def replaceIn (r : Overriding) (p : Profile) : Checked Profile :=
  match r with
  | nothing => .ok p
  | parts o => o.replaceIn p
  | described v => (ProfileOverrides.read v).bind fun o => o.replaceIn p

end Overriding

end BrowserPilot
