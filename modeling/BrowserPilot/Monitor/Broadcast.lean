import BrowserPilot.Event.Bus
import BrowserPilot.Monitor.Basic

/-!
# What a bus hears of a run

A monitor emits its events on a bus. A bus without a session takes that of the
first monitor that is put on it, and keeps it.
-/

namespace BrowserPilot

def Bus.attach (m : Monitor) (b : Bus) : Bus :=
  if b.sessionId.isEmpty then { b with sessionId := m.session.id } else b

/-- The bus after an event; one that is refused changes nothing. -/
def Bus.hear (b : Bus) (e : Emission) : Bus :=
  match b.emit e.at_ e.kind e.data with
  | .ok (b, _) => b
  | .error _ => b

def Bus.hearAll (m : Monitor) (b : Bus) : Bus := m.events.foldl Bus.hear (b.attach m)

end BrowserPilot
