import BrowserPilot.Text.Digit
import BrowserPilot.Text.Split
import BrowserPilot.Toml.Fault

/-!
# Text in documents

Blanks, comments, quoted text in its four forms, and keys.
-/

namespace BrowserPilot.Toml

def isSpace (c : Char) : Bool := c = ' ' || c = '\t'

def skipSpace (cs : List Char) : List Char := cs.dropWhile isSpace

def skipSpaceAndLines (cs : List Char) : List Char := cs.dropWhile fun c => isSpace c || c = '\n'

def isControl (c : Char) : Bool := decide (c.toNat < 32) || c.toNat == 127

def isIllegalOnLine (c : Char) : Bool := isControl c && c ≠ '\t'

def isIllegalInBlock (c : Char) : Bool := isIllegalOnLine c && c ≠ '\n'

def checkLegal (isIllegal : Char → Bool) (part after : List Char) : Except Fault Unit :=
  match part.dropWhile fun c => !isIllegal c with
  | [] => .ok ()
  | c :: rest => .error (.at_ (.foundCharacter c) (rest.length + 1 + after.length))

/-! ## Comments -/

def skipComment (cs : List Char) : Except Fault (List Char) :=
  match cs with
  | '#' :: rest =>
    let line := rest.takeWhile (· ≠ '\n')
    let after := rest.dropWhile (· ≠ '\n')
    (checkLegal isIllegalOnLine line after).map fun _ => after
  | cs => .ok cs

def skipBetween : Nat → List Char → Except Fault (List Char)
  | 0, cs => .ok cs
  | fuel + 1, cs =>
    match skipSpaceAndLines cs with
    | '#' :: rest => (skipComment ('#' :: rest)).bind (skipBetween fuel)
    | cs => .ok cs

/-! ## Literal text -/

def literalText (mark : List Char) (isIllegal : Char → Bool) : Reader (List Char) := fun cs =>
  match Text.cut? mark cs with
  | none => fail (.expected (String.ofList mark)) []
  | some (part, after) => (checkLegal isIllegal part (mark ++ after)).map fun _ => (part, after)

/-! ## Text with escapes -/

def readHex (n : Nat) : Reader (List Char) := fun cs =>
  let digits := cs.take n
  if digits.length = n ∧ digits.all fun c => (Text.hexValue? c).isSome then
    let code := digits.foldl (fun k c => k * 16 + (Text.hexValue? c).getD 0) 0
    if code < 0xD800 ∨ (0xE000 ≤ code ∧ code < 0x110000) then .ok ([Char.ofNat code], cs.drop n)
    else fail .notACharacter (cs.drop n)
  else fail .badHex cs

/-- What stands for a line end that is escaped: nothing, whatever blanks follow. -/
def foldLine (cs : List Char) : Except Fault (List Char × List Char) :=
  match skipSpace cs with
  | [] => .ok ([], [])
  | '\n' :: rest => .ok ([], skipSpaceAndLines rest)
  | cs => fail .badEscape cs

def readEscape (inBlock : Bool) : Reader (List Char)
  | 'u' :: rest => readHex 4 rest
  | 'U' :: rest => readHex 8 rest
  | 'b' :: rest => .ok (['\x08'], rest)
  | 't' :: rest => .ok (['\t'], rest)
  | 'n' :: rest => .ok (['\n'], rest)
  | 'f' :: rest => .ok (['\x0c'], rest)
  | 'r' :: rest => .ok (['\r'], rest)
  | '"' :: rest => .ok (['"'], rest)
  | '\\' :: rest => .ok (['\\'], rest)
  | c :: rest =>
    if inBlock && (isSpace c || c = '\n') then foldLine (c :: rest) else fail .badEscape rest
  | [] => fail .badEscape []

def escapedText (inBlock : Bool) : Nat → Reader (List Char)
  | 0, cs => fail .openText cs
  | _ + 1, [] => fail .openText []
  | fuel + 1, '\\' :: rest => do
    let (part, rest) ← readEscape inBlock rest
    let (more, rest) ← escapedText inBlock fuel rest
    .ok (part ++ more, rest)
  | fuel + 1, '"' :: rest =>
    if !inBlock then .ok ([], rest)
    else
      match rest with
      -- fewer than three quotes are text
      | '"' :: '"' :: rest => .ok ([], rest)
      | rest => (escapedText inBlock fuel rest).map fun r => ('"' :: r.1, r.2)
  | fuel + 1, c :: rest =>
    if (if inBlock then isIllegalInBlock c else isIllegalOnLine c) then fail (.badCharacter c) (c :: rest)
    else (escapedText inBlock fuel rest).map fun r => (c :: r.1, r.2)

/-- Up to two more quotes that belong to text in three quotes. -/
def extraQuotes (quote : Char) (r : List Char × List Char) : List Char × List Char :=
  let extra := (r.2.take 2).takeWhile (· = quote)
  (r.1 ++ extra, r.2.drop extra.length)

/-- Text of several lines, after its three quotes. A line end right after them
does not belong to it. -/
def block (quote : Char) (cs : List Char) : Except Fault (List Char × List Char) :=
  let cs := match cs with
    | '\n' :: rest => rest
    | cs => cs
  (if quote = '"' then escapedText true (cs.length + 1) cs
    else literalText [quote, quote, quote] isIllegalInBlock cs).map (extraQuotes quote)

/-! ## Keys -/

def isBare (c : Char) : Bool :=
  ('a' ≤ c && c ≤ 'z') || ('A' ≤ c && c ≤ 'Z') || ('0' ≤ c && c ≤ '9') || c = '-' || c = '_'

def startsKey (c : Char) : Bool := isBare c || c = '"' || c = '\''

def readName : Reader String
  | '\'' :: rest => (literalText ['\''] isIllegalOnLine rest).map fun r => (String.ofList r.1, r.2)
  | '"' :: rest => (escapedText false (rest.length + 1) rest).map fun r => (String.ofList r.1, r.2)
  | cs =>
    match cs.takeWhile isBare with
    | [] => fail .keyStart cs
    | name => .ok (String.ofList name, cs.dropWhile isBare)

/-- Names with dots between them, and the blanks after them. -/
def readKeyWithin : Nat → Reader Key
  | 0, cs => fail .keyStart cs
  | fuel + 1, cs => do
    let (name, rest) ← readName cs
    match skipSpace rest with
    | '.' :: rest => (readKeyWithin fuel (skipSpace rest)).map fun r => (name :: r.1, r.2)
    | rest => .ok ([name], rest)

def readKey : Reader Key := fun cs => readKeyWithin (cs.length + 1) cs

end BrowserPilot.Toml
