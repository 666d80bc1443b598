import BrowserPilot.Numeric.Binary64

/-!
# Instants

An instant is a number of microseconds since the start of the year 2024 in
universal time. It is written as a calendar date with the time of day. A moment
also has the seconds of a clock for measuring.
-/

namespace BrowserPilot

/-- Microseconds since 2024-01-01T00:00:00 UTC. -/
structure Instant where
  micros : Int
  deriving DecidableEq, Repr

namespace Instant

/-- The instant a number of seconds after the start; a half microsecond goes
to the even neighbour. -/
def ofSeconds (t : Binary64) : Instant := ⟨((t.mul (.ofNat 1000000)).round?).getD 0⟩

/-! ## The calendar -/

/-- Days from the first of March of the year 0 to the start of 2024. -/
def epochDays : Int := 739191

/-- Year, month and day of a number of days since the start of 2024. -/
def civil (days : Int) : Int × Int × Int :=
  -- years are counted from March here, so that a leap day is the last day of its year
  let z := days + epochDays
  let era := z.fdiv 146097
  let doe := z - era * 146097
  let yoe := (doe - doe.fdiv 1460 + doe.fdiv 36524 - doe.fdiv 146096).fdiv 365
  let doy := doe - (365 * yoe + yoe.fdiv 4 - yoe.fdiv 100)
  let mp := (5 * doy + 2).fdiv 153
  let day := doy - (153 * mp + 2).fdiv 5 + 1
  let month := if mp < 10 then mp + 3 else mp - 9
  (yoe + era * 400 + (if month ≤ 2 then 1 else 0), month, day)

def padded (width : Nat) (n : Int) : String :=
  let body := toString n.natAbs
  String.ofList (List.replicate (width - body.length) '0') ++ body

/-- Date and time of day; the fraction of the second only when there is one. -/
def dateTime (i : Instant) : String :=
  let seconds := i.micros.fdiv 1000000
  let fraction := i.micros.fmod 1000000
  let days := seconds.fdiv 86400
  let s := seconds.fmod 86400
  let (year, month, day) := civil days
  padded 4 year ++ "-" ++ padded 2 month ++ "-" ++ padded 2 day ++ "T" ++ padded 2 (s.fdiv 3600) ++ ":" ++
    padded 2 ((s.fdiv 60).fmod 60) ++ ":" ++ padded 2 (s.fmod 60) ++
    (if fraction = 0 then "" else "." ++ padded 6 fraction)

/-- The form used in records. -/
def zulu (i : Instant) : String := i.dateTime ++ "Z"

/-- The form used for the times of events. -/
def withOffset (i : Instant) : String := i.dateTime ++ "+00:00"

/-- Whole milliseconds from one instant to another, cut off after the length
in seconds has been rounded to a double. -/
def millisecondsTo (start stop : Instant) : Int :=
  (((Binary64.ofRatio (stop.micros - start.micros) 1000000).mul (.ofNat 1000)).truncate?).getD 0

end Instant

/-- A moment on both clocks: the wall clock, and the seconds of a clock that
only ever runs forward. -/
structure Moment where
  wall : Instant
  seconds : Binary64
  deriving DecidableEq, Repr

def Moment.ofSeconds (t : Binary64) : Moment := ⟨.ofSeconds t, t⟩

end BrowserPilot
