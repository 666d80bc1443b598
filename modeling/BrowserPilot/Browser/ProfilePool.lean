import BrowserPilot.Browser.Profile
import BrowserPilot.Fault
import BrowserPilot.Random.Draw

/-!
# The pool of profiles

Profiles as real browsers show them. Every one is made from one platform: its
user agent, a window size that is usual on it, and a region with its time zone
and language.
-/

namespace BrowserPilot

structure Region where
  timezone : String
  locale : String

namespace Region

def usual : List Region := [
  ⟨"America/New_York", "en-US"⟩, ⟨"America/Chicago", "en-US"⟩, ⟨"America/Los_Angeles", "en-US"⟩,
  ⟨"America/Toronto", "en-CA"⟩, ⟨"Europe/London", "en-GB"⟩, ⟨"Europe/Berlin", "de-DE"⟩, ⟨"Europe/Paris", "fr-FR"⟩]

def all : List Region := usual ++ [
  ⟨"Asia/Riyadh", "ar-SA"⟩, ⟨"Asia/Dubai", "ar-AE"⟩, ⟨"Africa/Cairo", "ar-EG"⟩, ⟨"Asia/Kuwait", "ar-KW"⟩,
  ⟨"Asia/Qatar", "ar-QA"⟩]

end Region

structure Platform where
  /-- How the user agent names the system. -/
  system : String
  viewports : List Viewport
  regions : List Region

namespace Platform

def all : List Platform := [
  ⟨"Windows NT 10.0; Win64; x64",
    [⟨1920, 1080⟩, ⟨1366, 768⟩, ⟨1536, 864⟩, ⟨1600, 900⟩, ⟨1280, 720⟩], Region.all⟩,
  ⟨"Macintosh; Intel Mac OS X 10_15_7",
    [⟨1440, 900⟩, ⟨1512, 982⟩, ⟨1680, 1050⟩, ⟨1280, 800⟩], Region.all⟩,
  ⟨"X11; Linux x86_64", [⟨1920, 1080⟩, ⟨2560, 1440⟩, ⟨1366, 768⟩], Region.usual⟩]

def userAgent (p : Platform) (version : Nat) : String :=
  "Mozilla/5.0 (" ++ p.system ++ ") AppleWebKit/537.36 (KHTML, like Gecko) Chrome/" ++ toString version ++
    ".0.0.0 Safari/537.36"

end Platform

structure ProfilePool where
  profiles : List Profile
  nonempty : profiles ≠ []

namespace ProfilePool

def versions : List Nat := [122, 123, 124]

/-- All profiles, by platform, version, window size and region. -/
def allProfiles : List Profile :=
  Platform.all.flatMap fun p => versions.flatMap fun v => p.viewports.flatMap fun viewport =>
    p.regions.map fun r => ⟨p.userAgent v, viewport, r.timezone, r.locale⟩

theorem allProfiles_ne_nil : allProfiles ≠ [] := fun h => Bool.noConfusion (congrArg List.isEmpty h)

def all : ProfilePool := ⟨allProfiles, allProfiles_ne_nil⟩

def empty : Fault := .foreign "ValueError" "Profile pool must not be empty"

def ofList (profiles : List Profile) : Except Fault ProfilePool :=
  if h : profiles = [] then .error empty else .ok ⟨profiles, h⟩

def draw (pool : ProfilePool) : Draw Profile := Draw.member pool.profiles pool.nonempty

/-- A profile with some parts set by hand. It is drawn first, so that the
overrides have no influence on what is drawn. -/
def generate (pool : ProfilePool) (r : Overriding) : Draw (Schema.Checked Profile) := do
  let profile ← pool.draw
  pure (r.replaceIn profile)

def drawWith (pool : ProfilePool) (overrides : Option Json) : Draw (Schema.Checked Profile) :=
  pool.generate (overrides.elim .nothing .described)

end ProfilePool

end BrowserPilot
