import BrowserPilot.Json.Basic
import BrowserPilot.Text.Digit
import BrowserPilot.Text.Printable

/-!
# Values in literal notation

The notation in which messages quote values: text in single quotes, or in
double quotes when it holds a single quote and no double one; what is not
printable is escaped by its code point.
-/

namespace BrowserPilot.Json

def literalChar (q c : Char) : List Char :=
  if c = q ∨ c = '\\' then ['\\', c]
  else if c = '\n' then ['\\', 'n']
  else if c = '\r' then ['\\', 'r']
  else if c = '\t' then ['\\', 't']
  else if Text.isPrintable c then [c]
  else if c.toNat < 0x100 then '\\' :: 'x' :: Text.hexDigits 2 c.toNat
  else if c.toNat < 0x10000 then '\\' :: 'u' :: Text.hexDigits 4 c.toNat
  else '\\' :: 'U' :: Text.hexDigits 8 c.toNat

def literalText (s : String) : String :=
  let cs := s.toList
  let q := if cs.contains '\'' && !cs.contains '"' then '"' else '\''
  String.ofList (q :: (cs.flatMap (literalChar q) ++ [q]))

mutual

def literal : Json → String
  | .null => "None"
  | .bool b => if b then "True" else "False"
  | .int n => toString n
  | .num x => x.text .report
  | .str s => literalText s
  | .arr items => "[" ++ ", ".intercalate (literals items) ++ "]"
  | .obj members => "\x7b" ++ ", ".intercalate (literalMembers members) ++ "\x7d"

def literals : List Json → List String
  | [] => []
  | v :: rest => literal v :: literals rest

def literalMembers : List (String × Json) → List String
  | [] => []
  | (k, v) :: rest => (literalText k ++ ": " ++ literal v) :: literalMembers rest

end

/-- A value inside a message: text as it is, all else as a literal. -/
def display : Json → String
  | .str s => s
  | v => literal v

def literalNames (names : List String) : String := "[" ++ ", ".intercalate (names.map literalText) ++ "]"

/-- Values as a row in round brackets, a single one followed by a comma. -/
def literalRow : List Json → String
  | [] => "()"
  | [v] => "(" ++ literal v ++ ",)"
  | vs => "(" ++ ", ".intercalate (literals vs) ++ ")"

end BrowserPilot.Json
