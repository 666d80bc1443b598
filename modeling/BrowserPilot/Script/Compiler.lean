import BrowserPilot.Script.Compile

/-!
# A compiler used again

A compiler reads a script line by line, with one open step at a time. It can be
used for one script after the other. What it holds between them is the default
for retries, and the warnings of the last script: those up to the line that
failed, if one did.
-/

namespace BrowserPilot.Script

structure OpenStep where
  ordinal : Nat
  lineNumber : Nat
  action : Option Action
  policy : ErrorPolicy

def OpenStep.opened (retries ordinal lineNumber : Nat) : OpenStep := ⟨ordinal, lineNumber, none, ⟨false, retries⟩⟩

def OpenStep.step (o : OpenStep) : Step :=
  { id := "step-" ++ toString o.ordinal
    ordinal := o.ordinal
    action := o.action.getD (.navigate "")
    policy := o.policy }

def OpenStep.add (o : OpenStep) (r : LineReading) : OpenStep :=
  { o with
    action := r.action.orElse fun _ => o.action
    policy := ⟨o.policy.ignoresErrors || r.skipsErrors, r.retries.getD o.policy.retries⟩ }

structure Scan where
  steps : List Step
  current : Option OpenStep
  warnings : List Warning

namespace Scan

def empty : Scan := ⟨[], none, []⟩

def flush (s : Scan) : Scan :=
  match s.current with
  | none => s
  | some o =>
    { steps := s.steps ++ [o.step]
      current := none
      warnings := if o.action.isNone then s.warnings ++ [⟨o.lineNumber, .noAction o.ordinal⟩] else s.warnings }

def openStep (retries : Nat) (s : Scan) (l : Line) : Scan :=
  { s.flush with current := some (.opened retries (s.flush.steps.length + 1) l.number) }

/-- What a line says goes to the open step; without one it is not read. -/
def apply (s : Scan) (l : Line) : Except (NumberTooLong × List Warning) Scan :=
  match s.current with
  | none => .ok s
  | some o =>
    match readLine l.text with
    | .error e => .error (e, s.warnings)
    | .ok r =>
      .ok { s with
        current := some (o.add r)
        warnings := if r.isUnknownCall then s.warnings ++ [⟨l.number, .unknownCall l.text⟩] else s.warnings }

/-- Reads a line. A marker line may carry an action itself. -/
def readLine (retries : Nat) (s : Scan) (l : Line) : Except (NumberTooLong × List Warning) Scan :=
  (if isMarker l.text then s.openStep retries l else s).apply l

def readLines (retries : Nat) : Scan → List Line → Except (NumberTooLong × List Warning) Scan
  | s, [] => .ok s
  | s, l :: rest =>
    match s.readLine retries l with
    | .error e => .error e
    | .ok s => readLines retries s rest

end Scan

structure Compiler where
  retries : Nat
  warnings : List Warning

namespace Compiler

def create (retries : Int) : Except CompileError Compiler := (retryDefault retries).map fun n => ⟨n, []⟩

/-- The steps of a script, and the compiler with the warnings of this script. -/
def compile (c : Compiler) (script : String) : Except CompileError (List Step) × Compiler :=
  match Scan.empty.readLines c.retries (numberedFrom 1 (Text.lines script.toList)) with
  | .error (e, warnings) => (.error (.numberTooLong e.digits), { c with warnings })
  | .ok s => (.ok s.flush.steps, { c with warnings := s.flush.warnings })

/-- The compiler after some scripts, whatever came of them. -/
def afterAll (c : Compiler) : List String → Compiler
  | [] => c
  | script :: rest => (c.compile script).2.afterAll rest

end Compiler

end BrowserPilot.Script
