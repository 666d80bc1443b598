import BrowserPilot.Cli.Arguments
import BrowserPilot.Path

/-!
# Commands

What can be asked on the command line, and how it is read from arguments.
-/

namespace BrowserPilot.Cli

structure RunCommand where
  scripts : List Path
  output : Option Path := none
  seed : Option Int := none
  concurrency : Int := 1
  headful : Bool := false
  events : Bool := false
  deriving DecidableEq, Repr

inductive Command where
  | help
  | version
  | compile (script : Path) (asJson : Bool)
  | run (c : RunCommand)
  | profile (seed : Option Int) (locale timezone : Option String)
  | showSettings
  | checkSettings
  deriving DecidableEq, Repr

namespace Command

open Arguments

def helpOption : OptionShape := { name := "--help" }

def commonOptions : List OptionShape :=
  [helpOption, { name := "--version" }, { name := "--log-level", takesValue := true }]

/-- Reads a command, unless help is asked for. -/
def reading (known : List OptionShape) (args : List String) (f : Arguments → Except UsageFault Command) :
    Except UsageFault Command :=
  (read (helpOption :: known) args).bind fun a => if a.has "--help" then .ok help else f a

def noOperands (a : Arguments) (c : Command) : Except UsageFault Command :=
  match a.operands with
  | [] => .ok c
  | x :: _ => .error (.extraOperand x)

def parseCompile (args : List String) : Except UsageFault Command :=
  reading [{ name := "--json", letter := some 'j' }] args fun a =>
    match a.operands with
    | [] => .error (.missingOperand "SCRIPT")
    | [script] => .ok (compile (.ofString script) (a.has "--json"))
    | _ :: x :: _ => .error (.extraOperand x)

/-- The number of sessions at a time, from one to ten. -/
def concurrency (a : Arguments) : Except UsageFault Int :=
  (a.number? "--concurrency").bind fun n =>
    match n with
    | none => .ok 1
    | some n => if 1 ≤ n ∧ n ≤ 10 then .ok n else .error (.invalidValue "--concurrency" (toString n))

def parseRun (args : List String) : Except UsageFault Command :=
  reading [{ name := "--output", letter := some 'o', takesValue := true }, { name := "--seed", takesValue := true },
      { name := "--concurrency", letter := some 'c', takesValue := true }, { name := "--headful" },
      { name := "--events" }] args fun a => do
    let seed ← a.number? "--seed"
    let concurrency ← concurrency a
    if a.operands.isEmpty then .error (.missingOperand "SCRIPTS")
    else .ok (run { scripts := a.operands.map .ofString, output := (a.value? "--output").map .ofString, seed, concurrency,
                    headful := a.has "--headful", events := a.has "--events" })

def parseProfile (args : List String) : Except UsageFault Command :=
  reading [{ name := "--seed", takesValue := true }, { name := "--locale", takesValue := true },
      { name := "--timezone", takesValue := true }] args fun a => do
    let seed ← a.number? "--seed"
    noOperands a (profile seed (a.value? "--locale") (a.value? "--timezone"))

def parseSettings (args : List String) : Except UsageFault Command := do
  let a ← readBefore [helpOption] args
  if a.has "--help" then .ok help
  else
    match a.operands with
    | [] => .error .missingCommand
    | "show" :: rest => reading [] rest fun a => noOperands a showSettings
    | "validate" :: rest => reading [] rest fun a => noOperands a checkSettings
    | name :: _ => .error (.unknownCommand name)

def parse (args : List String) : Except UsageFault Command := do
  let a ← readBefore commonOptions args
  if a.has "--help" then .ok help
  else if a.has "--version" then .ok version
  else
    match a.operands with
    | [] => .ok help
    | "compile" :: rest => parseCompile rest
    | "run" :: rest => parseRun rest
    | "profile" :: rest => parseProfile rest
    | "settings" :: rest => parseSettings rest
    | name :: _ => .error (.unknownCommand name)

end Command

end BrowserPilot.Cli
