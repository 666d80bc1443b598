import BrowserPilot.Step.Basic

/-!
# Rendering steps as a script

Every step becomes a marker line and a retry loop around the call of its
action, in the spelling that compiling recognises.
-/

namespace BrowserPilot.Script

/-- The words of a marker line for a kind of action. -/
def label : ActionKind → String
  | .navigate => "open page"
  | .click => "click element"
  | .type => "type text"
  | .wait => "wait"
  | .extract => "extract data"
  | .screenshot => "take screenshot"
  | .scroll => "scroll page"

def callOf : Action → String
  | .navigate url => "await page.goto('" ++ url ++ "');"
  | .click selector => "await page.click('" ++ selector ++ "');"
  | .type selector text => "await page.fill('" ++ selector ++ "', '" ++ text ++ "');"
  | .wait .time ms _ => "await page.waitForTimeout(" ++ toString ms ++ ");"
  | .wait .selector _ selector => "await page.waitForSelector('" ++ selector ++ "');"
  | .extract selector =>
    "const data = await page.$$eval('" ++ selector ++ "', els => els.map(el => el.textContent));"
  | .screenshot true => "await page.screenshot(\x7b fullPage: true \x7d);"
  | .screenshot false => "await page.screenshot(\x7b\x7d);"
  | .scroll .bottom _ => "await page.evaluate(() => window.scrollTo(0, document.body.scrollHeight));"
  | .scroll (.pixels n) _ => "await page.evaluate(() => window.scrollTo(0, " ++ toString n ++ "));"

def onExhausted (p : ErrorPolicy) : String :=
  if p.ignoresErrors then "console.warn('skipping error:', stepError.message);" else "throw stepError;"

def stepLines (index : Nat) (s : Step) : List String :=
  let counter := "retries_step" ++ toString index
  ["    // Step " ++ toString index ++ ": " ++ label s.kind,
    "    let " ++ counter ++ " = " ++ toString s.policy.retries ++ ";",
    "    while (" ++ counter ++ " >= 0) \x7b",
    "      try \x7b",
    "        " ++ callOf s.action,
    "        break;",
    "      \x7d catch (stepError) \x7b",
    "        " ++ counter ++ "--;",
    "        if (" ++ counter ++ " < 0) \x7b",
    "          " ++ onExhausted s.policy,
    "          break;",
    "        \x7d",
    "        await new Promise((resolve) => setTimeout(resolve, 1000));",
    "      \x7d",
    "    \x7d",
    ""]

def stepsFrom : Nat → List Step → List String
  | _, [] => []
  | index, s :: rest => stepLines index s ++ stepsFrom (index + 1) rest

def opening : List String := ["async function runTask(page) \x7b", "  try \x7b"]

def closing : List String :=
  ["    return \x7b success: true \x7d;",
    "  \x7d catch (error) \x7b",
    "    return \x7b success: false, error: error.message \x7d;",
    "  \x7d",
    "\x7d"]

def render (steps : List Step) : String :=
  String.join ((opening ++ stepsFrom 1 steps ++ closing).map fun l => l ++ "\n")

end BrowserPilot.Script
