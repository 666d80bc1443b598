import BrowserPilot.Text.Split

/-!
# Paths

A path is a root, which may be empty, and the names below it. Empty names and
single dots do not count.
-/

namespace BrowserPilot

structure Path where
  root : String
  names : List String
  deriving DecidableEq, Repr

namespace Path

/-- The root of a path in text form: exactly two slashes are a root of their own. -/
def rootOf : List Char → String
  | '/' :: '/' :: '/' :: _ => "/"
  | '/' :: '/' :: _ => "//"
  | '/' :: _ => "/"
  | _ => ""

def namesOf (cs : List Char) : List String :=
  ((Text.splitOn ['/'] cs).map String.ofList).filter fun n => n ≠ "" && n ≠ "."

def ofString (s : String) : Path := ⟨rootOf s.toList, namesOf s.toList⟩

def text (p : Path) : String :=
  if p.root = "" ∧ p.names = [] then "." else p.root ++ "/".intercalate p.names

def name (p : Path) : String := p.names.getLast?.getD ""

/-- The last name without its suffix, which starts at the last point unless
that is its first or its last character. -/
def stem (p : Path) : String :=
  let cs := p.name.toList
  let suffix := cs.reverse.takeWhile (· ≠ '.')
  let before := cs.take (cs.length - suffix.length - 1)
  if suffix.isEmpty || suffix.length = cs.length || before.isEmpty then p.name else String.ofList before

def isAbsolute (p : Path) : Bool := p.root ≠ ""

/-- A path as seen from a directory; an absolute one stays as it is. -/
def under (dir p : Path) : Path := if p.isAbsolute then p else ⟨dir.root, dir.names ++ p.names⟩

end Path

end BrowserPilot
