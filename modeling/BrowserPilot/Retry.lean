import BrowserPilot.Fault
import BrowserPilot.Numeric.Shortest

/-!
# Delays between attempts

A strategy says how long to wait after a failed attempt before the next one;
whether there is a next one is not its concern. Delays grow with the number of
attempts and are capped.
-/

namespace BrowserPilot

inductive RetryStrategy where
  | immediate
  /-- `base · factor ^ (attempt - 1)` -/
  | exponential (base factor maxDelay : Binary64)
  /-- `base + increment · (attempt - 1)` -/
  | linear (base increment maxDelay : Binary64)
  /-- Exponential, with base and factor depending on the fault. -/
  | adaptive (maxDelay : Binary64)
  deriving DecidableEq, Repr

namespace RetryStrategy

inductive Name where
  | immediate | exponential | linear | adaptive
  deriving DecidableEq, Repr

namespace Name

def all : List Name := [immediate, exponential, linear, adaptive]

def text : Name → String
  | immediate => "immediate"
  | exponential => "exponential"
  | linear => "linear"
  | adaptive => "adaptive"

def ofText? (s : String) : Option Name := all.find? fun n => n.text == s

end Name

/-! ## Building strategies -/

inductive Refusal where
  | negativeDelay
  | factorBelowOne
  | negativeMaximum
  | unknownName (name : String)
  deriving DecidableEq, Repr

def Refusal.message : Refusal → String
  | negativeDelay => "delays must be >= 0"
  | factorBelowOne => "factor must be >= 1"
  | negativeMaximum => "max_delay must be >= 0"
  | unknownName name => Json.literalText name ++ " is not a valid RetryStrategyName"

def isBelow (bound : Nat) (x : Binary64) : Bool := x.lt (.ofNat bound)

def exponential? (base factor maxDelay : Binary64) : Except Refusal RetryStrategy :=
  if isBelow 0 base || isBelow 0 maxDelay then .error .negativeDelay
  else if isBelow 1 factor then .error .factorBelowOne
  else .ok (.exponential base factor maxDelay)

def linear? (base increment maxDelay : Binary64) : Except Refusal RetryStrategy :=
  if isBelow 0 base || isBelow 0 increment || isBelow 0 maxDelay then .error .negativeDelay
  else .ok (.linear base increment maxDelay)

def adaptive? (maxDelay : Binary64) : Except Refusal RetryStrategy :=
  if isBelow 0 maxDelay then .error .negativeMaximum else .ok (.adaptive maxDelay)

/-- The strategy of a name; the base delay is also the increment of a linear one. -/
def ofName? (name : Name) (base maxDelay : Binary64) : Except Refusal RetryStrategy :=
  match name with
  | .immediate => .ok .immediate
  | .exponential => exponential? base (.ofNat 2) maxDelay
  | .linear => linear? base base maxDelay
  | .adaptive => adaptive? maxDelay

def named? (name : String) (base maxDelay : Binary64) : Except Refusal RetryStrategy :=
  match Name.ofText? name with
  | some n => ofName? n base maxDelay
  | none => .error (.unknownName name)

def usual : RetryStrategy := .exponential (.ofNat 1) (.ofNat 2) (.ofNat 30)

/-! ## Delays -/

/-- Base and factor for a fault. Navigation backs off hardest; script errors
are retried at a flat pace. -/
def parameters : Option Fault → Binary64 × Binary64
  | some (.step (.navigationTimeout ..)) | some (.step (.navigationFailed ..)) => (.ofNat 5, .ofNat 2)
  | some (.step (.waitTimeout ..)) => (.ofNat 3, .ofRatio 3 2)
  | some (.step (.elementNotFound ..)) => (.ofNat 2, .ofRatio 3 2)
  | some (.step (.scriptFailed ..)) => (.ofNat 1, .ofNat 1)
  | _ => (.ofNat 1, .ofNat 2)

def beyondRange : Fault := .foreign "OverflowError" "(34, 'Numerical result out of range')"

def attemptTooLarge : Fault := .foreign "OverflowError" "int too large to convert to float"

def isTooLarge (n : Nat) : Bool := !(Binary64.ofNat n).isFinite

def growing (base factor maxDelay : Binary64) (n : Nat) : Except Fault Binary64 :=
  if isTooLarge n then .error attemptTooLarge
  else
    match factor.pow? n with
    | none => .error beyondRange
    | some power => .ok ((base.mul power).least maxDelay)

/-- Seconds to wait after a failed attempt, counted from one. -/
def delay (s : RetryStrategy) (attempt : Int) (fault : Option Fault) : Except Fault Binary64 :=
  -- attempts before the first count as the first
  let n := (attempt - 1).toNat
  match s with
  | .immediate => .ok (.zero false)
  | .exponential base factor maxDelay => growing base factor maxDelay n
  | .linear base increment maxDelay =>
    if isTooLarge n then .error attemptTooLarge
    else .ok ((base.add (increment.mul (.ofNat n))).least maxDelay)
  | .adaptive maxDelay =>
    let (base, factor) := parameters fault
    growing base factor maxDelay n

end RetryStrategy

end BrowserPilot
