import BrowserPilot.Console.Panel
import BrowserPilot.Console.Table
import BrowserPilot.Json.Printer
import BrowserPilot.Rehearsal.Performance
import BrowserPilot.Script.File
import BrowserPilot.Settings.Layers

/-!
# Commands at work

A command finds its surroundings, writes lines on a console and may stop early.
It does nothing else to the world: what it would write into a file is part of
what it gives back.
-/

namespace BrowserPilot.Cli

open Rehearsal

structure Surroundings (W : Type) where
  environment : Environment
  projectRoot : Path
  documents : String → Option String
  script : Path → Option (List UInt8)
  isFile : String → Bool
  writeFault : Path → Option Fault
  /-- How the browsers of a batch answer, by their worlds. -/
  respond : Responder W
  world : Nat → W

structure Transcript where
  lines : List (List Char) := []
  events : List String := []
  file : Option (Path × String) := none

inductive Stop where
  | failed
  | crash (f : Fault)
  /-- A session waits for something that never comes. -/
  | stuck

abbrev Report (α : Type) := ExceptT Stop (StateM Transcript) α

namespace Report

def width : Nat := 160

def emit (lines : List (List Char)) : Report Unit :=
  modify fun t => { t with lines := t.lines ++ lines.map Console.trimEnd }

def stop {α : Type} (s : Stop) : Report α := throw s

def badMarkup (u : Console.Unopened) : Fault :=
  .foreign "MarkupError" ("closing tag '[" ++ u.tag ++ "]' has nothing to close")

def emitMarked (lines : Except Console.Unopened (List (List Char))) : Report Unit :=
  match lines with
  | .ok lines => emit lines
  | .error u => stop (.crash (badMarkup u))

def say (text : String) : Report Unit :=
  emitMarked ((Console.Markup.plain text).map (Console.wrap .natural .fold width))

def table (t : Console.Table) : Report Unit := emitMarked (t.lines width)

def panel (title text : String) : Report Unit := emitMarked (Console.panel width title text)

/-- Writes a value, however wide its lines are. -/
def value (v : Json) : Report Unit := emit (Text.splitOn ['\n'] (Json.write .shown 0 v))

end Report

/-! ## What commands have in common -/

def loadFault (f : Settings.LoadFault) : Fault := .foreign f.kind f.message

def settings? {W : Type} (s : Surroundings W) : Except Settings.LoadFault Settings :=
  Settings.load s.projectRoot s.environment s.documents []

def settings {W : Type} (s : Surroundings W) : Report Settings :=
  match settings? s with
  | .ok settings => pure settings
  | .error f => Report.stop (.crash (loadFault f))

def script {W : Type} (s : Surroundings W) (p : Path) : Report String :=
  match s.script p with
  | none => do
    Report.say ("[red]File not found:[/red] " ++ p.text)
    Report.stop .failed
  | some bytes =>
    match Script.ofBytes bytes with
    | .ok text => pure text
    | .error f => Report.stop (.crash (.foreign "UnicodeDecodeError" f.message))

end BrowserPilot.Cli
