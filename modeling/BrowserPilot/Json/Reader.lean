import BrowserPilot.Json.Basic
import BrowserPilot.Text.Digit

/-!
# Reading structured values

`parse` reads one value, blanks around it allowed. A number without fraction
and exponent is whole; every other number is rounded to the nearest double.
The readers take fuel, of which the length of the text is always enough.
-/

namespace BrowserPilot.Json

def isSpace (c : Char) : Bool := c = ' ' || c = '\n' || c = '\r' || c = '\t'

def skipSpace (cs : List Char) : List Char := cs.dropWhile isSpace

/-! ## Text in quotes -/

def readUnit : List Char → Option (Nat × List Char)
  | a :: b :: c :: d :: rest =>
    match Text.hexValue? a, Text.hexValue? b, Text.hexValue? c, Text.hexValue? d with
    | some a, some b, some c, some d => some (((a * 16 + b) * 16 + c) * 16 + d, rest)
    | _, _, _, _ => none
  | _ => none

/-- The character of an escape, after the backslash. -/
def readEscape : List Char → Option (Char × List Char)
  | '"' :: rest => some ('"', rest)
  | '\\' :: rest => some ('\\', rest)
  | '/' :: rest => some ('/', rest)
  | 'b' :: rest => some ('\x08', rest)
  | 'f' :: rest => some ('\x0c', rest)
  | 'n' :: rest => some ('\n', rest)
  | 'r' :: rest => some ('\r', rest)
  | 't' :: rest => some ('\t', rest)
  | 'u' :: rest =>
    match readUnit rest with
    | none => none
    | some (high, rest) =>
      -- half of a surrogate pair has to be the first one, with the second right behind it
      if high < 0xD800 ∨ 0xE000 ≤ high then some (Char.ofNat high, rest)
      else if 0xDC00 ≤ high then none
      else
        match rest with
        | '\\' :: 'u' :: rest =>
          match readUnit rest with
          | none => none
          | some (low, rest) =>
            if 0xDC00 ≤ low ∧ low < 0xE000 then
              some (Char.ofNat (0x10000 + (high - 0xD800) * 0x400 + (low - 0xDC00)), rest)
            else none
        | _ => none
  | _ => none

/-- The characters up to the closing quote. -/
def readChars : Nat → List Char → Option (List Char × List Char)
  | 0, _ => none
  | _ + 1, [] => none
  | fuel + 1, c :: rest =>
    if c = '"' then some ([], rest)
    else if c = '\\' then
      match readEscape rest with
      | none => none
      | some (c, rest) => (readChars fuel rest).map fun r => (c :: r.1, r.2)
    else if c.toNat < 0x20 then none
    else (readChars fuel rest).map fun r => (c :: r.1, r.2)

/-- Text, after the opening quote. -/
def readText (fuel : Nat) (cs : List Char) : Option (String × List Char) :=
  (readChars fuel cs).map fun r => (String.ofList r.1, r.2)

/-! ## Numbers -/

def isAsciiDigit (c : Char) : Bool := '0' ≤ c && c ≤ '9'

def readExponent (cs : List Char) : Option Int × List Char :=
  match cs with
  | e :: rest =>
    if e = 'e' ∨ e = 'E' then
      let (negative, body) : Bool × List Char :=
        match rest with
        | '-' :: r => (true, r)
        | '+' :: r => (false, r)
        | r => (false, r)
      let digits := body.takeWhile isAsciiDigit
      if digits.isEmpty then (none, cs)
      else
        let n : Int := Text.readNat digits
        (some (if negative then -n else n), body.dropWhile isAsciiDigit)
    else (none, cs)
  | [] => (none, cs)

def readFraction (cs : List Char) : Option (List Char) × List Char :=
  match cs with
  | '.' :: rest =>
    let digits := rest.takeWhile isAsciiDigit
    if digits.isEmpty then (none, cs) else (some digits, rest.dropWhile isAsciiDigit)
  | _ => (none, cs)

/-- A number whose sign has been read. -/
def readMagnitude (negative : Bool) (cs : List Char) : Option (Json × List Char) :=
  let whole := cs.takeWhile isAsciiDigit
  -- a leading zero is the whole of the integer part
  let whole := if whole.head? = some '0' then ['0'] else whole
  if whole.isEmpty then none
  else
    let (fraction, rest) := readFraction (cs.drop whole.length)
    let (exponent, rest) := readExponent rest
    match fraction, exponent with
    | none, none => some (.int (if negative then -(Text.readNat whole : Int) else Text.readNat whole), rest)
    | _, _ =>
      let places := fraction.getD []
      let digits := Text.readNat (whole ++ places)
      some (.num (.ofDecimal negative digits (exponent.getD 0 - places.length)), rest)

def readWord (word : List Char) (value : Json) (cs : List Char) : Option (Json × List Char) :=
  if word.isPrefixOf cs then some (value, cs.drop word.length) else none

def readScalar (fuel : Nat) : List Char → Option (Json × List Char)
  | '"' :: rest => (readText fuel rest).map fun r => (.str r.1, r.2)
  | 'n' :: rest => readWord "ull".toList .null rest
  | 't' :: rest => readWord "rue".toList (.bool true) rest
  | 'f' :: rest => readWord "alse".toList (.bool false) rest
  | 'N' :: rest => readWord "aN".toList (.num .nan) rest
  | 'I' :: rest => readWord "nfinity".toList (.num (.infinite false)) rest
  | '-' :: 'I' :: rest => readWord "nfinity".toList (.num (.infinite true)) rest
  | '-' :: rest => readMagnitude true rest
  | cs => readMagnitude false cs

/-! ## Values -/

mutual

def readValue : Nat → List Char → Option (Json × List Char)
  | 0, _ => none
  | fuel + 1, '[' :: rest =>
    match skipSpace rest with
    | ']' :: rest => some (.arr [], rest)
    | rest => (readItems fuel rest).map fun r => (.arr r.1, r.2)
  | fuel + 1, '\x7b' :: rest =>
    match skipSpace rest with
    | '\x7d' :: rest => some (.obj [], rest)
    | rest => (readMembers fuel rest).map fun r => (.obj (ofWritten r.1), r.2)
  | fuel + 1, cs => readScalar fuel cs

def readItems : Nat → List Char → Option (List Json × List Char)
  | 0, _ => none
  | fuel + 1, cs =>
    match readValue fuel cs with
    | none => none
    | some (v, rest) =>
      match skipSpace rest with
      | ']' :: rest => some ([v], rest)
      | ',' :: rest => (readItems fuel (skipSpace rest)).map fun r => (v :: r.1, r.2)
      | _ => none

def readMembers : Nat → List Char → Option (List (String × Json) × List Char)
  | 0, _ => none
  | fuel + 1, '"' :: cs =>
    match readText fuel cs with
    | none => none
    | some (k, rest) =>
      match skipSpace rest with
      | ':' :: rest =>
        match readValue fuel (skipSpace rest) with
        | none => none
        | some (v, rest) =>
          match skipSpace rest with
          | '\x7d' :: rest => some ([(k, v)], rest)
          | ',' :: rest => (readMembers fuel (skipSpace rest)).map fun r => ((k, v) :: r.1, r.2)
          | _ => none
      | _ => none
  | _ + 1, _ => none

end

def parse (text : String) : Option Json :=
  let cs := text.toList
  match readValue (2 * cs.length + 2) (skipSpace cs) with
  | some (v, rest) => if (skipSpace rest).isEmpty then some v else none
  | none => none

end BrowserPilot.Json
