/-!
# Pause and stop

The token shared by a running session and whoever controls it. A stop also
ends a pause, and nothing pauses after it.
-/

namespace BrowserPilot

structure Control where
  paused : Bool := false
  stopped : Bool := false
  deriving DecidableEq, Repr

inductive ControlCall where
  | pause | resume | stop
  deriving DecidableEq, Repr

namespace Control

def pause (c : Control) : Control := if c.stopped then c else { c with paused := true }

def resume (c : Control) : Control := { c with paused := false }

def stop (_ : Control) : Control := ⟨false, true⟩

def apply (call : ControlCall) (c : Control) : Control :=
  match call with
  | .pause => c.pause
  | .resume => c.resume
  | .stop => c.stop

/-! ## Waiting on a token -/

/-- Something that waits for the token. -/
inductive Waiter where
  /-- Waits until the token is not paused. -/
  | untilRunning
  /-- Waits until the token is stopped. -/
  | untilStopped
  deriving DecidableEq, Repr

/-- A gate. Who comes while it is shut stays before it until it is opened. -/
structure Gate where
  isOpen : Bool
  /-- The numbers of those before it, in the order they came. -/
  queue : List Nat

inductive Turn where
  | come (k : Waiter) (i : Nat)
  /-- Goes on; its gate has been opened for it. -/
  | goOn (k : Waiter) (i : Nat)

/-- A token at work, with a gate for each kind of waiters. The waiters have
numbers in the order they were started. -/
structure Watched where
  running : Gate := ⟨true, []⟩
  stopped : Gate := ⟨false, []⟩
  waiters : List (Waiter × Bool) := []
  /-- What there is to do, first come first served. -/
  turns : List Turn := []

namespace Watched

def control (w : Watched) : Control := ⟨!w.running.isOpen, w.stopped.isOpen⟩

def gate (w : Watched) : Waiter → Gate
  | .untilRunning => w.running
  | .untilStopped => w.stopped

def setGate (w : Watched) (k : Waiter) (g : Gate) : Watched :=
  match k with
  | .untilRunning => { w with running := g }
  | .untilStopped => { w with stopped := g }

/-- Opens a gate, and calls those before it. At an open gate nobody is called. -/
def openGate (w : Watched) (k : Waiter) : Watched :=
  if (w.gate k).isOpen then w
  else { w.setGate k ⟨true, []⟩ with turns := w.turns ++ (w.gate k).queue.map (.goOn k) }

def shutGate (w : Watched) (k : Waiter) : Watched := w.setGate k { w.gate k with isOpen := false }

def apply (c : ControlCall) (w : Watched) : Watched :=
  match c with
  | .pause => if w.stopped.isOpen then w else w.shutGate .untilRunning
  | .resume => w.openGate .untilRunning
  -- those who wait for a stop are called before those who wait for the end of a pause
  | .stop => (w.openGate .untilStopped).openGate .untilRunning

def start (k : Waiter) (w : Watched) : Watched :=
  { w with waiters := w.waiters ++ [(k, false)], turns := w.turns ++ [.come k w.waiters.length] }

def finish (w : Watched) (i : Nat) : Watched := { w with waiters := w.waiters.modify i fun x => (x.1, true) }

/-- A waiter does not look at its gate again once it has been called. -/
def take (w : Watched) : Turn → Watched
  | .come k i =>
    if (w.gate k).isOpen then w.finish i
    else w.setGate k { w.gate k with queue := (w.gate k).queue ++ [i] }
  | .goOn _ i => w.finish i

/-- Does all there is to do. Nothing of it gives more to do. -/
def settle (w : Watched) : Watched := w.turns.foldl take { w with turns := [] }

def call (c : ControlCall) (w : Watched) : Watched := (w.apply c).settle

def wait (k : Waiter) (w : Watched) : Watched := (w.start k).settle

end Watched

end Control

end BrowserPilot
