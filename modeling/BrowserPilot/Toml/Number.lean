import BrowserPilot.Json.Reader
import BrowserPilot.Toml.Fault

/-!
# Numbers, dates and times in documents

Each reader says whether its kind of value starts here, and what follows it.
-/

namespace BrowserPilot.Toml

open Json (isAsciiDigit)

/-- Digits with single underscores between them, and what follows; the
underscores are dropped. -/
def digitRun (isDigit : Char → Bool) : List Char → List Char × List Char
  | c :: '_' :: d :: rest =>
    if isDigit c && isDigit d then
      let r := digitRun isDigit (d :: rest)
      (c :: r.1, r.2)
    else if isDigit c then ([c], '_' :: d :: rest)
    else ([], c :: '_' :: d :: rest)
  | c :: rest =>
    if isDigit c then
      let r := digitRun isDigit rest
      (c :: r.1, r.2)
    else ([], c :: rest)
  | [] => ([], [])

/-! ## Numbers -/

def readBased? (base : Nat) (cs : List Char) : Option (Json × List Char) :=
  let (digits, rest) := digitRun (fun c => match Text.hexValue? c with | some v => decide (v < base) | none => false) cs
  if digits.isEmpty then none
  else some (.int (digits.foldl (fun n c => n * base + (Text.hexValue? c).getD 0) 0 : Nat), rest)

def readPrefixed? : List Char → Option (Json × List Char)
  | '0' :: 'x' :: rest => readBased? 16 rest
  | '0' :: 'o' :: rest => readBased? 8 rest
  | '0' :: 'b' :: rest => readBased? 2 rest
  | _ => none

/-- The digits before the point: a zero alone, or digits that do not start with one. -/
def readWhole? (cs : List Char) : Option (List Char × List Char) :=
  match cs with
  | '0' :: rest => some (['0'], rest)
  | cs =>
    match digitRun isAsciiDigit cs with
    | ([], _) => none
    | r => some r

def readFraction (cs : List Char) : List Char × List Char :=
  match cs with
  | '.' :: rest =>
    match digitRun isAsciiDigit rest with
    | ([], _) => ([], cs)
    | r => r
  | cs => ([], cs)

def readExponent? (cs : List Char) : Option Int × List Char :=
  match cs with
  | e :: rest =>
    if e = 'e' ∨ e = 'E' then
      let (negative, body) : Bool × List Char := match rest with
        | '-' :: r => (true, r)
        | '+' :: r => (false, r)
        | r => (false, r)
      match digitRun isAsciiDigit body with
      | ([], _) => (none, cs)
      | (digits, rest) => (some (if negative then -(Text.readNat digits : Int) else Text.readNat digits), rest)
    else (none, cs)
  | [] => (none, [])

/-- A decimal number; whole when it has neither fraction nor exponent. -/
def readDecimal? (cs : List Char) : Option (Except Fault Json × List Char) :=
  let (negative, body) : Bool × List Char := match cs with
    | '-' :: r => (true, r)
    | '+' :: r => (false, r)
    | r => (false, r)
  (readWhole? body).map fun (whole, rest) =>
    let (places, rest) := readFraction rest
    let (exponent, rest) := readExponent? rest
    if places.isEmpty && exponent.isNone then
      if 4300 < whole.length then (.error (.tooManyDigits whole.length), rest)
      else (.ok (.int (if negative then -(Text.readNat whole : Int) else Text.readNat whole)), rest)
    else
      (.ok (.num (.ofDecimal negative (Text.readNat (whole ++ places)) (exponent.getD 0 - places.length))), rest)

def readSpecial? : List Char → Option (Json × List Char)
  | 'i' :: 'n' :: 'f' :: rest | '+' :: 'i' :: 'n' :: 'f' :: rest => some (.num (.infinite false), rest)
  | '-' :: 'i' :: 'n' :: 'f' :: rest => some (.num (.infinite true), rest)
  | 'n' :: 'a' :: 'n' :: rest | '+' :: 'n' :: 'a' :: 'n' :: rest | '-' :: 'n' :: 'a' :: 'n' :: rest => some (.num .nan, rest)
  | _ => none

/-! ## Dates and times -/

def readPart? (n low high : Nat) (cs : List Char) : Option (Nat × List Char) :=
  let digits := cs.take n
  let value := Text.readNat digits
  if digits.length = n ∧ digits.all isAsciiDigit ∧ low ≤ value ∧ value ≤ high then some (value, cs.drop n) else none

def skip? (c : Char) : List Char → Option (List Char)
  | d :: rest => if d = c then some rest else none
  | [] => none

def readFractionOfSecond (cs : List Char) : List Char :=
  match cs with
  | '.' :: d :: rest => if isAsciiDigit d then rest.dropWhile isAsciiDigit else cs
  | cs => cs

def afterTime? (cs : List Char) : Option (List Char) := do
  let (_, rest) ← readPart? 2 0 23 cs
  let rest ← skip? ':' rest
  let (_, rest) ← readPart? 2 0 59 rest
  let rest ← skip? ':' rest
  let (_, rest) ← readPart? 2 0 59 rest
  some (readFractionOfSecond rest)

def afterOffset? (cs : List Char) : Option (List Char) :=
  match cs with
  | 'Z' :: rest | 'z' :: rest => some rest
  | '+' :: rest | '-' :: rest => do
    let (_, rest) ← readPart? 2 0 23 rest
    let rest ← skip? ':' rest
    let (_, rest) ← readPart? 2 0 59 rest
    some rest
  | _ => none

def afterTimeOfDate (cs : List Char) : List Char :=
  match cs with
  | c :: rest =>
    if c = 'T' ∨ c = 't' ∨ c = ' ' then
      match afterTime? rest with
      | some rest => (afterOffset? rest).getD rest
      | none => cs
    else cs
  | [] => []

def isLeap (year : Nat) : Bool := year % 4 == 0 && (year % 100 != 0 || year % 400 == 0)

def daysOf (year month : Nat) : Nat :=
  if month = 2 then (if isLeap year then 29 else 28) else if [4, 6, 9, 11].contains month then 30 else 31

/-- Whether a date that is written here exists, and what follows it. -/
def readDate? (cs : List Char) : Option (Bool × List Char) := do
  let (year, rest) ← readPart? 4 0 9999 cs
  let rest ← skip? '-' rest
  let (month, rest) ← readPart? 2 1 12 rest
  let rest ← skip? '-' rest
  let (day, rest) ← readPart? 2 1 31 rest
  some (decide (1 ≤ year ∧ day ≤ daysOf year month), afterTimeOfDate rest)

end BrowserPilot.Toml
