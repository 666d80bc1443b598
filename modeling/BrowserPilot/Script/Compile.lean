import BrowserPilot.Script.Idiom
import BrowserPilot.Step.Basic
import BrowserPilot.Text.Lines

/-!
# Compiling scripts

A script is cut into blocks at its marker lines, and every block becomes one
step. What precedes the first marker is dropped. Nothing in a block is an
error except a number with too many digits; a line that looks like a call but
is none of the idioms leaves a warning, and so does a block without action.
-/

namespace BrowserPilot.Script

/-! ## Errors and warnings -/

inductive CompileError where
  | negativeRetries
  | numberTooLong (digits : Nat)
  deriving DecidableEq, Repr

def CompileError.message : CompileError → String
  | negativeRetries => "default_retry_count must be >= 0"
  | numberTooLong digits =>
    "Exceeds the limit (" ++ toString digitLimit ++ " digits) for integer string conversion: value has " ++
      toString digits ++ " digits; use sys.set_int_max_str_digits() to increase the limit"

inductive WarningCause where
  | unknownCall (line : List Char)
  | noAction (ordinal : Nat)
  deriving DecidableEq, Repr

structure Warning where
  lineNumber : Nat
  cause : WarningCause
  deriving DecidableEq, Repr

namespace Warning

def line (w : Warning) : String :=
  match w.cause with
  | .unknownCall line => String.ofList line
  | .noAction ordinal => "step-" ++ toString ordinal

def message (w : Warning) : String :=
  match w.cause with
  | .unknownCall _ => "unrecognized page call; line ignored"
  | .noAction _ => "step block has no recognized action; defaulting to an empty navigate"

def toJson (w : Warning) : Json :=
  .obj [("line_number", .ofNat w.lineNumber), ("line", .str w.line), ("message", .str w.message)]

end Warning

/-! ## Lines -/

structure LineReading where
  action : Option Action
  retries : Option Nat
  skipsErrors : Bool
  isUnknownCall : Bool

def readLine (line : List Char) : Except NumberTooLong LineReading := do
  let action ← findAction line idioms none
  let retries ←
    match retryDigits? line with
    | none => .ok none
    | some digits => (number digits).map some
  .ok ⟨action, retries, Script.skipsErrors line, action.isNone && hasPageCall line⟩

/-- A line of a script with its number, without blanks at its ends. -/
structure Line where
  number : Nat
  text : List Char
  deriving DecidableEq, Repr

def numberedFrom : Nat → List (List Char) → List Line
  | _, [] => []
  | k, l :: rest => ⟨k, Text.trim l⟩ :: numberedFrom (k + 1) rest

/-! ## Blocks -/

/-- A marker line and the lines up to the next one. -/
structure Block where
  marker : Line
  body : List Line
  deriving DecidableEq, Repr

def splitBlocks : List Line → List Line × List Block
  | [] => ([], [])
  | l :: rest =>
    let (free, blocks) := splitBlocks rest
    -- the lines in front of the next marker belong to this one, if it is a marker
    if isMarker l.text then ([], ⟨l, free⟩ :: blocks) else (l :: free, blocks)

structure Draft where
  action : Option Action
  policy : ErrorPolicy
  warnings : List Warning

/-- A later line replaces what an earlier one said. -/
def Draft.add (d : Draft) (number : Nat) (text : List Char) (r : LineReading) : Draft where
  action := r.action.orElse fun _ => d.action
  policy := ⟨d.policy.ignoresErrors || r.skipsErrors, r.retries.getD d.policy.retries⟩
  warnings := if r.isUnknownCall then d.warnings ++ [⟨number, .unknownCall text⟩] else d.warnings

def readLines : Draft → List Line → Except NumberTooLong Draft
  | d, [] => .ok d
  | d, l :: rest =>
    match readLine l.text with
    | .error e => .error e
    | .ok r => readLines (d.add l.number l.text r) rest

/-- The step of a block. A marker line may carry an action itself. -/
def Block.compile (retries ordinal : Nat) (b : Block) : Except NumberTooLong (Step × List Warning) :=
  (readLines ⟨none, ⟨false, retries⟩, []⟩ (b.marker :: b.body)).map fun d =>
    let step : Step :=
      { id := "step-" ++ toString ordinal, ordinal, action := d.action.getD (.navigate ""), policy := d.policy }
    (step, if d.action.isNone then d.warnings ++ [⟨b.marker.number, .noAction ordinal⟩] else d.warnings)

def compileBlocks (retries : Nat) : Nat → List Block → Except NumberTooLong (List Step × List Warning)
  | _, [] => .ok ([], [])
  | ordinal, b :: rest =>
    match b.compile retries ordinal with
    | .error e => .error e
    | .ok (step, warnings) =>
      (compileBlocks retries (ordinal + 1) rest).map fun r => (step :: r.1, warnings ++ r.2)

/-! ## Scripts -/

structure Compiled where
  steps : List Step
  warnings : List Warning

def Compiled.toJson (c : Compiled) : Json :=
  .obj [("steps", .arr (c.steps.map Step.toJson)), ("warnings", .arr (c.warnings.map Warning.toJson))]

def retryDefault (n : Int) : Except CompileError Nat := if n < 0 then .error .negativeRetries else .ok n.toNat

def compileWith (retries : Nat) (script : String) : Except CompileError Compiled :=
  match compileBlocks retries 1 (splitBlocks (numberedFrom 1 (Text.lines script.toList))).2 with
  | .ok (steps, warnings) => .ok ⟨steps, warnings⟩
  | .error e => .error (.numberTooLong e.digits)

/-- Compiles a script with a default for the retries of a step. -/
def compile (retries : Int) (script : String) : Except CompileError Compiled :=
  (retryDefault retries).bind fun n => compileWith n script

end BrowserPilot.Script
