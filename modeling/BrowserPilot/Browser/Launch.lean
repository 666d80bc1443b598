import BrowserPilot.Browser.Profile

/-!
# Starting a browser

What the browser and its context are started with.
-/

namespace BrowserPilot

structure LaunchOptions where
  headless : Bool := true
  sandbox : Bool := false
  proxy : Option String := none
  deriving DecidableEq, Repr

namespace LaunchOptions

def flags : List String := [
  "--disable-blink-features=AutomationControlled", "--disable-infobars", "--disable-dev-shm-usage", "--no-first-run",
  "--no-default-browser-check", "--disable-background-networking", "--disable-component-update",
  "--disable-domain-reliability", "--disable-breakpad", "--disable-sync",
  "--disable-features=Translate,OptimizationHints,MediaRouter"]

/-- Flags that are usually there and are left out. -/
def droppedFlags : List String := ["--enable-automation"]

def arguments (o : LaunchOptions) : List String :=
  flags ++ if o.sandbox then [] else ["--no-sandbox", "--disable-setuid-sandbox"]

/-- The options by name; an empty proxy is none. -/
def toJson (o : LaunchOptions) : Json :=
  .obj ([("headless", .bool o.headless), ("args", .arr (o.arguments.map .str)),
    ("ignore_default_args", .arr (droppedFlags.map .str))] ++
      match o.proxy with
      | some url => if url.isEmpty then [] else [("proxy", .obj [("server", .str url)])]
      | none => [])

end LaunchOptions

structure ContextOptions where
  profile : Profile
  /-- Where videos are recorded; nowhere if empty. -/
  videoDirectory : String := ""
  deriving DecidableEq, Repr

namespace ContextOptions

def acceptLanguage (locale : String) : String :=
  let primary := Profile.language locale
  locale ++ (if primary = locale then "" else "," ++ primary ++ ";q=0.9") ++ (if primary = "en" then "" else ",en;q=0.8")

def toJson (o : ContextOptions) : Json :=
  .obj ([("user_agent", .str o.profile.userAgent), ("viewport", o.profile.viewport.toJson),
    ("locale", .str o.profile.locale), ("timezone_id", .str o.profile.timezone), ("java_script_enabled", .bool true),
    ("bypass_csp", .bool true), ("ignore_https_errors", .bool true),
    ("extra_http_headers", .obj [("Accept-Language", .str (acceptLanguage o.profile.locale)),
      ("Upgrade-Insecure-Requests", .str "1")])] ++
    if o.videoDirectory.isEmpty then [] else [("record_video_dir", .str o.videoDirectory)])

end ContextOptions

end BrowserPilot
