import BrowserPilot.Browser.Launch
import BrowserPilot.Fault

/-!
# Calls on the driven browser

Everything that is asked of the browser that is driven, and of the clock, with
the answers that come back. What a primitive does is a sequence of calls.
-/

namespace BrowserPilot

/-- A page, by the order in which pages were opened. -/
structure Page where
  number : Nat
  deriving DecidableEq, Repr

inductive Call where
  | start
  | launch (options : LaunchOptions)
  | newContext (options : ContextOptions)
  | addInitScript (script : String)
  | newPage
  | setTimeout (page : Page) (ms : Nat)
  | setNavigationTimeout (page : Page) (ms : Nat)
  | goto (page : Page) (url : String) (timeoutMs : Nat)
  | waitForSelector (page : Page) (selector : String) (timeoutMs : Nat)
  | collect (page : Page) (selector : String)
  | screenshot (page : Page) (fullPage : Bool)
  | evaluate (page : Page) (code : String)
  | content (page : Page)
  | boundingBox (page : Page) (selector : String) (timeoutMs : Nat)
  | click (page : Page) (selector : String) (timeoutMs : Nat)
  | focus (page : Page) (selector : String) (timeoutMs : Nat)
  | moveMouse (page : Page) (x y : Binary64)
  | turnWheel (page : Page) (delta : Binary64)
  | typeText (page : Page) (text : String)
  | closePage (page : Page)
  | clearCookies
  | closeContext
  | closeBrowser
  | stop
  | sleep (seconds : Binary64)
  deriving DecidableEq, Repr

inductive Reply where
  | value (v : Json)
  | page (p : Page)
  | image (bytes : List UInt8)
  | raised (f : Fault)

def collectScript : List String := [
  "(elements) => elements.map((el) => (\x7b",
  "    text: (el.textContent || '').trim(),",
  "    raw_markup: el.innerHTML,",
  "    attributes: Array.from(el.attributes).reduce((acc, attr) => \x7b",
  "        acc[attr.name] = attr.value;",
  "        return acc;",
  "    \x7d, \x7b\x7d),",
  "\x7d))"]

namespace Call

def name : Call → String
  | start => "start"
  | launch _ => "launch"
  | newContext _ => "new_context"
  | addInitScript _ => "add_init_script"
  | newPage => "new_page"
  | setTimeout .. => "set_default_timeout"
  | setNavigationTimeout .. => "set_default_navigation_timeout"
  | goto .. => "goto"
  | waitForSelector .. => "wait_for_selector"
  | collect .. => "eval_on_selector_all"
  | screenshot .. => "screenshot"
  | evaluate .. => "evaluate"
  | content _ => "content"
  | boundingBox .. => "bounding_box"
  | click .. => "locator.click"
  | focus .. => "focus"
  | moveMouse .. => "mouse.move"
  | turnWheel .. => "mouse.wheel"
  | typeText .. => "keyboard.type"
  | closePage _ => "page.close"
  | clearCookies => "clear_cookies"
  | closeContext => "context.close"
  | closeBrowser => "browser.close"
  | stop => "stop"
  | sleep _ => "sleep"

end Call

end BrowserPilot
