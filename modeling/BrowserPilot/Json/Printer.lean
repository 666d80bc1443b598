import BrowserPilot.Json.Basic
import BrowserPilot.Text.Digit

/-!
# Structured values as text

One printer for all documents; a `Style` says how items are separated, how
deep lines are indented, which characters are escaped and how numbers look.
-/

namespace BrowserPilot.Json

structure Style where
  separator : List Char
  colon : List Char
  /-- Blanks per level, when every item has a line of its own. -/
  indent : Option Nat
  /-- Whether characters outside printable ASCII are escaped. -/
  asciiOnly : Bool
  /-- Whether infinities and NaN are spelled out; otherwise they are `null`. -/
  spellsNonFinite : Bool
  numbers : NumberStyle

namespace Style

/-- No blanks at all, as records are stored. -/
def compact : Style := ⟨[','], [':'], none, false, false, .document⟩

/-- One item a line. -/
def indented (width : Nat) : Style := ⟨[','], [':', ' '], some width, false, false, .document⟩

/-- A blank after commas and colons and ASCII only, as log lines show data. -/
def spaced : Style := ⟨[',', ' '], [':', ' '], none, true, true, .report⟩

/-- A blank after commas and colons, as listings show data. -/
def listed : Style := ⟨[',', ' '], [':', ' '], none, false, true, .report⟩

/-- One item a line, as a console shows data. -/
def shown : Style := ⟨[','], [':', ' '], some 2, false, true, .report⟩

/-- One item a line and ASCII only, as files hold data. -/
def filed : Style := ⟨[','], [':', ' '], some 2, true, true, .report⟩

end Style

/-! ## Text in quotes -/

def unitEscape (n : Nat) : List Char := '\\' :: 'u' :: Text.hexDigits 4 n

def escapeChar (asciiOnly : Bool) (c : Char) : List Char :=
  if c = '"' then ['\\', '"']
  else if c = '\\' then ['\\', '\\']
  else if c = '\n' then ['\\', 'n']
  else if c = '\r' then ['\\', 'r']
  else if c = '\t' then ['\\', 't']
  else if c = '\x08' then ['\\', 'b']
  else if c = '\x0c' then ['\\', 'f']
  else if c.toNat < 0x20 then unitEscape c.toNat
  else if asciiOnly && decide (0x7F ≤ c.toNat) then
    if c.toNat < 0x10000 then unitEscape c.toNat
    else unitEscape (0xD800 + (c.toNat - 0x10000) / 0x400) ++ unitEscape (0xDC00 + (c.toNat - 0x10000) % 0x400)
  else [c]

def quote (asciiOnly : Bool) (s : String) : List Char :=
  '"' :: (s.toList.flatMap (escapeChar asciiOnly) ++ ['"'])

/-! ## Values -/

def numberText (s : Style) (x : Binary64) : List Char :=
  match x with
  | .nan => if s.spellsNonFinite then "NaN".toList else "null".toList
  | .infinite neg =>
    if s.spellsNonFinite then (if neg then "-Infinity".toList else "Infinity".toList) else "null".toList
  | .finite .. => (x.text s.numbers).toList

/-- The start of a line at a depth; nothing when items share one line. -/
def lineStart (s : Style) (depth : Nat) : List Char :=
  match s.indent with
  | none => []
  | some width => '\n' :: List.replicate (width * depth) ' '

mutual

def write (s : Style) (depth : Nat) : Json → List Char
  | .null => "null".toList
  | .bool b => if b then "true".toList else "false".toList
  | .int n => (toString n).toList
  | .num x => numberText s x
  | .str t => quote s.asciiOnly t
  | .arr [] => ['[', ']']
  | .arr (v :: rest) =>
    '[' :: (lineStart s (depth + 1) ++ (write s (depth + 1) v ++
      (writeItems s (depth + 1) rest ++ (lineStart s depth ++ [']']))))
  | .obj [] => ['\x7b', '\x7d']
  | .obj ((k, v) :: rest) =>
    '\x7b' :: (lineStart s (depth + 1) ++ (quote s.asciiOnly k ++ (s.colon ++ (write s (depth + 1) v ++
      (writeMembers s (depth + 1) rest ++ (lineStart s depth ++ ['\x7d']))))))

/-- The items after the first. -/
def writeItems (s : Style) (depth : Nat) : List Json → List Char
  | [] => []
  | v :: rest => s.separator ++ (lineStart s depth ++ (write s depth v ++ writeItems s depth rest))

/-- The members after the first. -/
def writeMembers (s : Style) (depth : Nat) : List (String × Json) → List Char
  | [] => []
  | (k, v) :: rest =>
    s.separator ++ (lineStart s depth ++ (quote s.asciiOnly k ++ (s.colon ++ (write s depth v ++
      writeMembers s depth rest))))

end

def render (s : Style) (v : Json) : String := String.ofList (write s 0 v)

end BrowserPilot.Json
