import BrowserPilot.Browser.Basic
import BrowserPilot.Browser.InitScript
import BrowserPilot.Browser.ProfilePool
import BrowserPilot.Text.Blank
import BrowserPilot.Text.Lines

/-!
# Starting, stopping and pages

A browser is started with a profile and its init script, opens pages by name,
and gives back everything it holds when it is closed.
-/

namespace BrowserPilot.Browser

open Work

/-- The first line of a fault of the driven browser; what follows is its log. -/
def headline (f : Fault) : String :=
  match Text.lines (Text.trim f.message.toList) with
  | line :: _ => String.ofList line
  | [] => f.kind

/-- Tells a refusal of the driven browser in other words; all else passes. -/
def onRefusal (f : (timedOut : Bool) → Fault → StepFault) : Fault → Fault
  | .browser timedOut message => .step (f timedOut (.browser timedOut message))
  | other => other

/-! ## Closing -/

def closePages : List (String × Page) → Work Unit
  | [] => pure ()
  | (_, page) :: rest => do
    ignoreFaults (tell (.closePage page))
    closePages rest

def closeContext : Work Unit := do
  let b ← browser
  if b.isLaunched then
    modify fun b => { b with isLaunched := false }
    if b.countermeasures.clearsCookies then ignoreFaults (tell .clearCookies)
    ignoreFaults (tell .closeContext)

def closeProcess : Work Unit := do
  if (← browser).isRunning then
    modify fun b => { b with isRunning := false }
    ignoreFaults (tell .closeBrowser)

def stopDriver : Work Unit := do
  if (← browser).isStarted then
    modify fun b => { b with isStarted := false }
    ignoreFaults (tell .stop)

/-- Gives back pages, context, process and driver, in this order, whatever
fails on the way. A browser that holds nothing stays as it is. -/
def close : Work Unit := do
  let b ← browser
  if b.isStarted || b.isRunning || b.isLaunched then
    -- flags and pages are dropped before the call that may fail
    modify fun b => { b with pages := [] }
    closePages b.pages
    closeContext
    closeProcess
    stopDriver

/-! ## Starting -/

def alreadyLaunched : Fault := .sessionInit "Browser session already launched"

def notLaunched : Fault := .sessionInit "Browser not launched. Call launch() first."

def startAll (options : LaunchOptions) (context : ContextOptions) (script : String) : Work Unit := do
  tell .start
  modify fun b => { b with isStarted := true }
  tell (.launch options)
  modify fun b => { b with isRunning := true }
  tell (.newContext context)
  tell (.addInitScript script)

/-- Starts with a profile; one is drawn if none is given. What was started
before a fault is given back. -/
def launch (given : Option Profile) : Work Profile := do
  if (← browser).isStarted then raise alreadyLaunched
  else
    let profile ← match given with
      | some p => pure p
      | none => draw ProfilePool.all.draw
    let b ← browser
    let (proxy, proxies) ← draw b.proxies.next
    modify fun b => { b with proxies }
    let options : LaunchOptions := ⟨b.headless, b.sandbox, proxy⟩
    -- the flags that are set on the way tell `close` what there is to give back
    recover (startAll options ⟨profile, b.videoDirectory⟩ (InitScript.build profile b.countermeasures)) fun f => do
      close
      raise (.sessionInit ("Browser failed to start: " ++ f.message))
    modify fun b => { b with isLaunched := true, profile := some profile }
    pure profile

/-! ## Pages -/

def defaultPage : String := "default"

def pageName (id : String) : String := if id.isEmpty then defaultPage else id

/-- The page of a name, opened on first use. -/
def openPage (id : String) : Work Page := do
  let b ← browser
  if !b.isLaunched then raise notLaunched
  else
    let name := pageName id
    match b.pages.lookup name with
    | some page => pure page
    | none =>
      let reply ← rephrase (call .newPage) (onRefusal fun _ f =>
        .scriptFailed ("Could not open page " ++ name ++ ": " ++ headline f) name)
      let page : Page := match reply with
        | .page p => p
        | _ => ⟨0⟩
      -- refusals of these two calls come out as they are, and the page stays unnoted
      tell (.setTimeout page b.timeoutMs)
      tell (.setNavigationTimeout page b.timeoutMs)
      modify fun b => { b with pages := b.pages ++ [(name, page)] }
      pure page

def closePage (id : String) : Work Unit := do
  let name := pageName id
  match (← browser).pages.lookup name with
  | none => pure ()
  | some page => do
    modify fun b => { b with pages := b.pages.filter fun p => p.1 != name }
    tell (.closePage page)

end BrowserPilot.Browser
