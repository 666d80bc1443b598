import BrowserPilot.Settings.Address
import BrowserPilot.Settings.Basic

/-!
# Issues of settings

What is wrong with settings although every field is valid by itself.
-/

namespace BrowserPilot.Settings

inductive Issue where
  | delaysInverted (maxDelay baseDelay : Binary64)
  | unknownRotation (rotation : String)
  | notAProxy (url : String)
  | videoDirectoryIsFile (path : String)
  deriving DecidableEq, Repr

def rotations : List String := ["round_robin", "random"]

def Issue.message : Issue → String
  | delaysInverted maxDelay baseDelay =>
    "retry.max_delay_sec (" ++ maxDelay.text .report ++ ") is below retry.base_delay_sec (" ++ baseDelay.text .report ++ ")"
  | unknownRotation rotation =>
    "stealth.rotation_strategy must be one of " ++ ", ".intercalate rotations ++ ", got " ++ Json.literalText rotation
  | notAProxy url => "stealth.proxy_urls: " ++ Json.literalText url ++ " is not an http, https or socks5 proxy URL"
  | videoDirectoryIsFile path => "browser.record_video_dir points at a file: " ++ path

/-- An issue for every address that is not that of a proxy. An address that is
refused as a whole ends the check. -/
def proxyIssues : List String → Except Address.Refusal (List Issue)
  | [] => .ok []
  | url :: rest => do
    let a ← Address.ofString url
    -- the rest is checked even after an issue, and may be refused
    let more ← proxyIssues rest
    .ok (if a.isProxy then more else .notAProxy url :: more)

def issues (isFile : String → Bool) (s : Settings) : Except Address.Refusal (List Issue) := do
  let retry := s.retry
  let delays := if retry.strategy ≠ .immediate ∧ retry.maxDelay.lt retry.baseDelay then
    [Issue.delaysInverted retry.maxDelay retry.baseDelay] else []
  let rotation := if rotations.contains s.stealth.rotation then [] else [Issue.unknownRotation s.stealth.rotation]
  let proxies ← proxyIssues s.stealth.proxyUrls
  let dir := s.browser.videoDirectory
  let video := if !dir.isEmpty && isFile dir then [Issue.videoDirectoryIsFile dir] else []
  .ok (delays ++ rotation ++ proxies ++ video)

end BrowserPilot.Settings
