import BrowserPilot.Browser.Call
import BrowserPilot.Browser.Countermeasures
import BrowserPilot.Browser.Pacer
import BrowserPilot.Browser.Proxy
import BrowserPilot.Settings.Basic

/-!
# A browser session and its work

A `Browser` is what a session knows of the browser it drives. Its work is a
tree of calls: each reply decides how it goes on, and at each call the browser
is kept as it is while the call is under way, so that work can be cut short
there.
-/

namespace BrowserPilot

structure Browser where
  timeoutMs : Nat
  headless : Bool
  sandbox : Bool
  videoDirectory : String
  countermeasures : Countermeasures
  pacer : Pacer
  random : Twister
  proxies : ProxyPool
  isStarted : Bool := false
  isRunning : Bool := false
  isLaunched : Bool := false
  pages : List (String × Page) := []
  profile : Option Profile := none

namespace Browser

def create (s : Settings) (countermeasures : Countermeasures) (pacer : Pacer) (random : Twister) : Browser where
  timeoutMs := s.browser.timeoutMs
  headless := s.browser.headless
  sandbox := s.browser.sandbox
  videoDirectory := s.browser.videoDirectory
  countermeasures := countermeasures
  pacer := pacer
  random := random
  proxies := .ofList s.stealth.proxyUrls s.stealth.rotation

end Browser

/-! ## Work -/

/-- Work under way: it has ended, with a value or a fault, or a call is made
and the reply decides. -/
inductive Program (α : Type) where
  | done (browser : Browser) (result : Except Fault α)
  | ask (browser : Browser) (call : Call) (next : Reply → Program α)

namespace Program

/-- Goes on with the value; a fault ends the work. -/
def andThen {α β : Type} (f : Browser → α → Program β) : Program α → Program β
  | done b (.ok a) => f b a
  | done b (.error e) => done b (.error e)
  | ask b c next => ask b c fun r => (next r).andThen f

def orElse {α : Type} (f : Browser → Fault → Program α) : Program α → Program α
  | done b (.ok a) => done b (.ok a)
  | done b (.error e) => f b e
  | ask b c next => ask b c fun r => (next r).orElse f

end Program

def Work (α : Type) := Browser → Program α

namespace Work

instance : Monad Work where
  pure a := fun b => .done b (.ok a)
  bind w f := fun b => (w b).andThen fun b a => f a b

def raise {α : Type} (f : Fault) : Work α := fun b => .done b (.error f)

def ofExcept {α : Type} (r : Except Fault α) : Work α := fun b => .done b r

def browser : Work Browser := fun b => .done b (.ok b)

def modify (f : Browser → Browser) : Work Unit := fun b => .done (f b) (.ok ())

def recover {α : Type} (w : Work α) (f : Fault → Work α) : Work α := fun b => (w b).orElse fun b e => f e b

def rephrase {α : Type} (w : Work α) (f : Fault → Fault) : Work α := w.recover fun e => raise (f e)

def ignoreFaults (w : Work Unit) : Work Unit := w.recover fun _ => pure ()

/-- A call with its reply; one that raised a fault ends the work. -/
def call (c : Call) : Work Reply := fun b =>
  .ask b c fun r => .done b (match r with
    | .raised f => .error f
    | r => .ok r)

/-- A call of which only the effect counts. -/
def tell (c : Call) : Work Unit := do let _ ← call c

def value (c : Call) : Work Json := do
  match ← call c with
  | .value v => pure v
  | _ => pure .null

def draw {α : Type} (d : Draw α) : Work α := fun b =>
  let (a, random) := d b.random
  .done { b with random } (.ok a)

def sleep (seconds : Binary64) : Work Unit := tell (.sleep seconds)

def pause (least greatest : Nat) : Work Unit := do
  let (_, seconds) ← draw ((← browser).pacer.pause (.ofNat least) (.ofNat greatest))
  match seconds with
  | some s => sleep s
  | none => pure ()

end Work

end BrowserPilot
