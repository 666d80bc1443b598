import BrowserPilot.Browser.Profile

/-!
# Jobs

A script to run in a session of its own.
-/

namespace BrowserPilot

open Schema

structure Job where
  script : String
  taskName : String := "task"
  seed : Option Int := none
  profile : Option Profile := none
  deriving DecidableEq, Repr

namespace Job

def toJson (j : Job) : Json :=
  .obj [("script_text", .str j.script), ("task_name", .str j.taskName), ("seed", .ofOption .int j.seed),
    ("profile", .ofOption Profile.toJson j.profile)]

/-- Reads a job. A bus for its events has no raw form, so that only the lack of
one can be given. -/
def read : Reader Job :=
  record "ScriptJob" fun m =>
    let noBus : Checked Unit := optional "event_bus" () (nothing "EventBus") m
    ((((Checked.ap ((required "script_text" text m).map fun s t n p (_ : Unit) => Job.mk s t n p)
      (optional "task_name" "task" text m)).ap (optional "seed" none (orNothing whole) m)).ap
      (optional "profile" none (orNothing Profile.read) m)).ap noBus)

end Job

end BrowserPilot
