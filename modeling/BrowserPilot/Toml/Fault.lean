import BrowserPilot.Json.Literal

/-!
# Faults of documents

Why a text is no TOML document, and where.
-/

namespace BrowserPilot.Toml

abbrev Key := List String

inductive Complaint where
  | notAStatement
  | afterStatement
  | declaredTwice (k : Key)
  | reopened (k : Key)
  | closed (k : Key)
  | overwritten
  | duplicate (name : String)
  | tableEnd
  | tableListEnd
  | noEquals
  | keyStart
  | openList
  | openTable
  | badEscape
  | badHex
  | notACharacter
  | openText
  | badCharacter (c : Char)
  | foundCharacter (c : Char)
  | expected (text : String)
  | badDate
  | notAValue
  deriving DecidableEq, Repr

namespace Complaint

def row (k : Key) : String := Json.literalRow (k.map .str)

def message : Complaint → String
  | notAStatement => "Invalid statement"
  | afterStatement => "Expected newline or end of document after a statement"
  | declaredTwice k => "Cannot declare " ++ row k ++ " twice"
  | reopened k => "Cannot redefine namespace " ++ row k
  | closed k => "Cannot mutate immutable namespace " ++ row k
  | overwritten => "Cannot overwrite a value"
  | duplicate name => "Duplicate inline table key " ++ Json.literalText name
  | tableEnd => "Expected ']' at the end of a table declaration"
  | tableListEnd => "Expected ']]' at the end of an array declaration"
  | noEquals => "Expected '=' after a key in a key/value pair"
  | keyStart => "Invalid initial character for a key part"
  | openList => "Unclosed array"
  | openTable => "Unclosed inline table"
  | badEscape => "Unescaped '\\' in a string"
  | badHex => "Invalid hex value"
  | notACharacter => "Escaped character is not a Unicode scalar value"
  | openText => "Unterminated string"
  | badCharacter c => "Illegal character " ++ Json.literalText (String.singleton c)
  | foundCharacter c => "Found invalid character " ++ Json.literalText (String.singleton c)
  | expected text => "Expected " ++ Json.literalText text
  | badDate => "Invalid date or datetime"
  | notAValue => "Invalid value"

end Complaint

inductive Fault where
  /-- A complaint, and how many characters were still to be read. -/
  | at_ (complaint : Complaint) (left : Nat)
  /-- A whole number of more digits than are read. -/
  | tooManyDigits (n : Nat)
  deriving DecidableEq, Repr

namespace Fault

/-- Line and column of the first of the last `left` characters of a text. -/
def place (text : List Char) (left : Nat) : String :=
  if left = 0 then "end of document"
  else
    let before := text.take (text.length - left)
    "line " ++ toString (before.count '\n' + 1) ++ ", column " ++
      toString ((before.reverse.takeWhile (· ≠ '\n')).length + 1)

def message (text : List Char) : Fault → String
  | at_ c left => c.message ++ " (at " ++ place text left ++ ")"
  | tooManyDigits n =>
    "Exceeds the limit (4300 digits) for integer string conversion: value has " ++ toString n ++
      " digits; use sys.set_int_max_str_digits() to increase the limit"

end Fault

abbrev Reader (α : Type) := List Char → Except Fault (α × List Char)

def fail {α : Type} (c : Complaint) (cs : List Char) : Except Fault α := .error (.at_ c cs.length)

end BrowserPilot.Toml
