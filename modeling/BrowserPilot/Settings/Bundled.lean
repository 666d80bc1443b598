/-!
# Bundled documents

The settings documents that a project starts with.
-/

namespace BrowserPilot.Settings

def defaultDocument : List String := [
  "[browser]", "headless = true", "timeout_ms = 30000", "sandbox = false", "record_video_dir = \"\"",
  "[stealth]", "level = \"advanced\"", "proxy_urls = []", "rotation_strategy = \"round_robin\"",
  "[timing]", "scale = 1.0",
  "[retry]", "strategy = \"exponential\"", "base_delay_sec = 1.0", "max_delay_sec = 30.0",
  "[monitor]", "abort_on_failure = true", "stop_grace_sec = 5.0",
  "[compiler]", "default_retry_count = 3"]

def developmentDocument : List String := [
  "[browser]", "headless = false",
  "[retry]", "strategy = \"linear\"", "base_delay_sec = 0.5", "max_delay_sec = 5.0"]

def bundled (name : String) : Option String :=
  match name with
  | "settings.default.toml" => some ("\n".intercalate defaultDocument)
  | "settings.dev.toml" => some ("\n".intercalate developmentDocument)
  | _ => none

end BrowserPilot.Settings
