import BrowserPilot.Browser.Lifecycle
import BrowserPilot.Browser.Pointer
import BrowserPilot.Event.Bus
import BrowserPilot.Session.Outcome

/-!
# Primitives

What a browser session can do on a page. Pointer, keyboard and wheel move at
human pace when that is switched on. A refusal of the driven browser becomes a
fault of the step, with the selector or the address it was about.
-/

namespace BrowserPilot.Browser

open Work

/-! ## Pages as a whole -/

def navigate (url : String) (id : String := "") : Work Unit := do
  let page ← openPage id
  let b ← browser
  rephrase (tell (.goto page url b.timeoutMs)) (onRefusal fun timedOut f =>
    if timedOut then .navigationTimeout url b.timeoutMs else .navigationFailed url (headline f))
  if b.countermeasures.humanInput then pause 1000 3000

def waitForSelector (selector : String) (id : String := "") : Work Unit := do
  let page ← openPage id
  let b ← browser
  rephrase (tell (.waitForSelector page selector b.timeoutMs)) (onRefusal fun timedOut f =>
    if timedOut then .waitTimeout selector b.timeoutMs else .elementNotFound selector (headline f))

def holdOn (id : String) (length : Except Fault (Option Binary64)) : Work Unit := do
  let _ ← openPage id
  match ← ofExcept length with
  | some s => sleep s
  | none => pure ()

def waitFor (ms : Int) (id : String := "") : Work Unit := holdOn id (Pacer.holdFor ms)

def waitForPart (ms : Binary64) (id : String := "") : Work Unit := holdOn id (.ok (Pacer.holdForPart ms))

def screenshot (fullPage : Bool) (id : String := "") : Work (List UInt8) := do
  let page ← openPage id
  match ← rephrase (call (.screenshot page fullPage)) (onRefusal fun _ f =>
      .scriptFailed ("Screenshot failed: " ++ f.message) "") with
  | .image bytes => pure bytes
  | _ => pure []

def evaluate (code : String) (id : String := "") : Work Json := do
  let page ← openPage id
  rephrase (value (.evaluate page code)) (onRefusal fun _ f =>
    .scriptFailed ("Script execution failed: " ++ f.message) "")

def content (id : String := "") : Work Json := do
  let page ← openPage id
  rephrase (value (.content page)) (onRefusal fun _ f =>
    .scriptFailed ("Failed to get page content: " ++ f.message) "")

/-! ## Elements -/

def rowsOf (v : Json) : Except Fault (List Json) :=
  match v with
  | .arr rows => .ok rows
  | .obj members => .ok (members.map fun m => .str m.1)
  | .str s => .ok (s.toList.map fun c => .str (String.singleton c))
  | v => .error (.foreign "TypeError" ("'" ++ Snapshot.foreignName v ++ "' object is not iterable"))

def readRows (v : Json) : Except Fault (List Extract) := do
  (← rowsOf v).mapM fun row =>
    (Extract.read row).mapError fun p => .foreign "ValidationError" (Schema.Problem.report p)

def extract (selector : String) (id : String := "") : Work (List Extract) := do
  let page ← openPage id
  let rows ← rephrase (value (.collect page selector)) (onRefusal fun _ f => .elementNotFound selector (headline f))
  ofExcept (readRows rows)

/-! ## The pointer -/

def isPlaced : Json → Bool
  | .null | .obj [] | .bool false | .str "" | .arr [] => false
  | .int n => n ≠ 0
  | .num x => x.toInt? ≠ some 0
  | _ => true

def measure (box : Json) (name : String) : Except Fault Binary64 :=
  match box with
  | .obj members =>
    match Json.get? members name with
    | some (.num x) => .ok x
    | some (.int n) => .ok (.ofInt n)
    | some (.bool b) => .ok (.ofNat (if b then 1 else 0))
    | some v => .error (.foreign "TypeError" ("must be real number, not " ++ Snapshot.foreignName v))
    | none => .error (.foreign "KeyError" (Json.literalText name))
  | .arr _ => .error (.foreign "TypeError" "list indices must be integers or slices, not str")
  | .str _ => .error (.foreign "TypeError" "string indices must be integers, not 'str'")
  | v => .error (.foreign "TypeError" ("'" ++ Snapshot.foreignName v ++ "' object is not subscriptable"))

def ten : Binary64 := .ofNat 10

def nearMiddle (box : Json) (start length : String) : Work Binary64 := do
  let low ← ofExcept (measure box start)
  let span ← ofExcept (measure box length)
  let jitter ← draw (Draw.uniform ten.neg ten)
  pure ((low.add ((span.div? (.ofNat 2)).getD .nan)).add jitter)

def follow (page : Page) : List Point → Work Unit
  | [] => pure ()
  | p :: rest => do
    tell (.moveMouse page p.x p.y)
    pause 5 15
    follow page rest

def clickInBox (page : Page) (selector : String) (box : Json) : Work Unit := do
  let corner : Draw Binary64 := Draw.uniform (.ofNat 0) (.ofNat 100)
  let x ← draw corner
  let y ← draw corner
  let targetX ← nearMiddle box "x" "width"
  let targetY ← nearMiddle box "y" "height"
  tell (.moveMouse page x y)
  pause 50 150
  let steps ← draw (Draw.withSpan 10 15)
  follow page (Point.path ⟨x, y⟩ ⟨targetX, targetY⟩ steps)
  pause 100 300
  -- the element is clicked by its selector, wherever the pointer has come to
  tell (.click page selector (← browser).timeoutMs)
  pause 150 400

/-- Clicks an element; directly if it is not known where it is. -/
def click (selector : String) (id : String := "") : Work Unit := do
  let page ← openPage id
  let b ← browser
  let act : Work Unit := do
    let box ← if b.countermeasures.humanInput then value (.boundingBox page selector b.timeoutMs) else pure .null
    if isPlaced box then clickInBox page selector box else tell (.click page selector b.timeoutMs)
  rephrase act (onRefusal fun _ f => .elementNotFound selector (headline f))

/-! ## The keyboard -/

/-- Types character by character, with a longer pause now and then. -/
def typeChars (page : Page) : List Char → Work Unit
  | [] => pure ()
  | c :: rest => do
    tell (.typeText page (String.singleton c))
    pause 50 200
    if ← draw (Draw.chance (.ofRatio 1 10)) then pause 200 800
    typeChars page rest

def type (selector text : String) (id : String := "") : Work Unit := do
  let page ← openPage id
  let b ← browser
  let act : Work Unit := do
    tell (.focus page selector b.timeoutMs)
    if b.countermeasures.humanInput then
      pause 200 600
      typeChars page text.toList
      pause 100 400
    else tell (.typeText page text)
  rephrase act (onRefusal fun _ f => .elementNotFound selector (headline f))

/-! ## The wheel -/

/-- The share of a distance that one of several bursts scrolls. -/
def share (d : Amount) (bursts : Nat) : Except Fault Binary64 :=
  match d with
  | .part x => .ok ((x.div? (.ofNat bursts)).getD .nan)
  | .whole n =>
    match Binary64.ofRatio n bursts with
    | .infinite _ => .error Pacer.tooLong
    | x => .ok x

def turnWheel (page : Page) (delta : Binary64) : Nat → Work Unit
  | 0 => pure ()
  | n + 1 => do
    tell (.turnWheel page delta)
    if (← browser).countermeasures.humanInput then pause 300 800
    turnWheel page delta n

/-- Scrolls a page in bursts; in one when there is no human pace. Without a
distance it is a random one. -/
def scroll (direction : ScrollDirection) (given : Option Amount) (id : String := "") : Work Unit := do
  let page ← openPage id
  let d ← match given with
    | none => do pure (Amount.part (← draw (Draw.uniform (.ofNat 200) (.ofNat 500))))
    | some d => pure d
  let bursts ← if (← browser).countermeasures.humanInput then draw (Draw.withSpan 3 5) else pure 1
  let size ← ofExcept (share d bursts)
  let delta := match direction with
    | .down => size
    | .up => size.neg
  rephrase (turnWheel page delta bursts) (onRefusal fun _ f => .scriptFailed ("Scroll failed: " ++ headline f) "")

def unknownDirection (s : String) : Fault := .foreign "ValueError" ("Unknown scroll direction: " ++ s)

/-- Scrolls in a direction given by name, which is checked before a page is opened. -/
def scrollTowards (direction : String) (d : Option Amount) (id : String := "") : Work Unit :=
  match direction with
  | "up" => scroll .up d id
  | "down" => scroll .down d id
  | other => raise (unknownDirection other)

/-! ## Actions -/

def perform : Action → Work Result
  | .navigate url => do navigate url; pure .nothing
  | .click selector => do click selector; pure .nothing
  | .type selector text => do type selector text; pure .nothing
  | .wait .selector _ selector => do waitForSelector selector; pure .nothing
  | .wait .time ms _ => do waitFor ms; pure .nothing
  | .extract selector => do return .elements (← extract selector)
  | .screenshot fullPage => do return .image (← screenshot fullPage)
  | .scroll .bottom direction => do scroll direction none; pure .nothing
  | .scroll (.pixels n) direction => do scroll direction (some (.whole n)); pure .nothing

end BrowserPilot.Browser
