import BrowserPilot.Toml.Document
import BrowserPilot.Toml.Number
import BrowserPilot.Toml.Text

/-!
# Reading documents

`parse` reads a TOML document as an object. A document has no null of its own,
and null stands for a date or a time, of which only the form is checked.
-/

namespace BrowserPilot.Toml

def readScalar : Reader Json := fun cs =>
  match cs with
  | '"' :: '"' :: '"' :: rest => (block '"' rest).map fun r => (.str (String.ofList r.1), r.2)
  | '"' :: rest => (escapedText false (rest.length + 1) rest).map fun r => (.str (String.ofList r.1), r.2)
  | '\'' :: '\'' :: '\'' :: rest => (block '\'' rest).map fun r => (.str (String.ofList r.1), r.2)
  | '\'' :: rest => (literalText ['\''] isIllegalOnLine rest).map fun r => (.str (String.ofList r.1), r.2)
  | 't' :: 'r' :: 'u' :: 'e' :: rest => .ok (.bool true, rest)
  | 'f' :: 'a' :: 'l' :: 's' :: 'e' :: rest => .ok (.bool false, rest)
  | cs =>
    -- dates and times come first, as they begin like numbers
    match readDate? cs with
    | some (true, rest) => .ok (.null, rest)
    | some (false, _) => fail .badDate cs
    | none =>
      match afterTime? cs with
      | some rest => .ok (.null, rest)
      | none =>
        match readPrefixed? cs with
        | some r => .ok r
        | none =>
          match readDecimal? cs with
          | some (v, rest) => v.map fun v => (v, rest)
          | none =>
            match readSpecial? cs with
            | some r => .ok r
            | none => fail .notAValue cs

mutual

/-- A value. The fuel bounds how deep it is nested and how many parts it has;
twice the length of the text is always enough. -/
def readValue : Nat → Reader Json
  | 0, cs => fail .notAValue cs
  | fuel + 1, '[' :: rest => do
    let rest ← skipBetween (rest.length + 1) rest
    match rest with
    | ']' :: rest => .ok (.arr [], rest)
    | rest => (readItems fuel rest).map fun r => (.arr r.1, r.2)
  | fuel + 1, '\x7b' :: rest =>
    match skipSpace rest with
    | '\x7d' :: rest => .ok (.obj [], rest)
    | rest => (readMembers fuel {} rest).map fun r => (.obj r.1, r.2)
  | _ + 1, cs => readScalar cs

def readItems : Nat → Reader (List Json)
  | 0, cs => fail .openList cs
  | fuel + 1, cs => do
    let (v, rest) ← readValue fuel cs
    let rest ← skipBetween (rest.length + 1) rest
    match rest with
    | ']' :: rest => .ok ([v], rest)
    | ',' :: rest =>
      let rest ← skipBetween (rest.length + 1) rest
      match rest with
      | ']' :: rest => .ok ([v], rest)
      | rest => (readItems fuel rest).map fun r => (v :: r.1, r.2)
    | rest => fail .openList rest

def readMembers : Nat → InlineTable → Reader Json.Members
  | 0, _, cs => fail .openTable cs
  | fuel + 1, t, cs => do
    let (k, rest) ← readKey cs
    match rest with
    | '=' :: rest =>
      let (v, rest) ← readValue fuel (skipSpace rest)
      -- the value is read, and its errors come, before the key is found to be taken
      match t.assign k v with
      | .error c => fail c rest
      | .ok t =>
        match skipSpace rest with
        | '\x7d' :: rest => .ok (t.data, rest)
        | ',' :: rest => readMembers fuel t (skipSpace rest)
        | rest => fail .openTable rest
    | rest => fail .noEquals rest

end

def readPair : Reader (Key × Json) := fun cs => do
  let (k, rest) ← readKey cs
  match rest with
  | '=' :: rest =>
    let rest := skipSpace rest
    let (v, rest) ← readValue (2 * rest.length + 2) rest
    .ok ((k, v), rest)
  | rest => fail .noEquals rest

/-! ## Statements -/

/-- What follows a statement: the end of the text, or a line end. -/
def endStatement (cs : List Char) : Except Fault (List Char) := do
  let rest ← skipComment (skipSpace cs)
  match rest with
  | [] => .ok []
  | '\n' :: rest => .ok rest
  | rest => fail .afterStatement rest

def change (r : Except Complaint Document) (rest : List Char) : Except Fault Document :=
  r.mapError fun c => .at_ c rest.length

def readStatement (d : Document) (cs : List Char) : Except Fault (Document × List Char) :=
  match cs with
  | '[' :: '[' :: rest => do
    let (k, rest) ← readKey (skipSpace rest)
    let d ← change (d.settle.declareTableOfList k) rest
    match rest with
    | ']' :: ']' :: rest => .ok (d, rest)
    | rest => fail .tableListEnd rest
  | '[' :: rest => do
    let (k, rest) ← readKey (skipSpace rest)
    let d ← change (d.settle.declareTable k) rest
    match rest with
    | ']' :: rest => .ok (d, rest)
    | rest => fail .tableEnd rest
  | '#' :: _ => .ok (d, cs)
  | c :: _ =>
    if startsKey c then do
      let ((k, v), rest) ← readPair cs
      let d ← change (d.assign k v) rest
      .ok (d, rest)
    else fail .notAStatement cs
  | [] => .ok (d, [])

/-- All statements; each takes at least one character. -/
def readStatements : Nat → Document → List Char → Except Fault Document
  | 0, d, _ => .ok d
  | fuel + 1, d, cs =>
    match skipSpace cs with
    | [] => .ok d
    | '\n' :: rest => readStatements fuel d rest
    | cs => do
      let (d, rest) ← readStatement d cs
      let rest ← endStatement rest
      readStatements fuel d rest

/-- A carriage return before a line feed does not count. -/
def plainLines : List Char → List Char
  | '\r' :: '\n' :: rest => '\n' :: plainLines rest
  | c :: rest => c :: plainLines rest
  | [] => []

def parse (text : String) : Except String Json.Members :=
  let cs := plainLines text.toList
  match readStatements (cs.length + 1) {} cs with
  | .ok d => .ok d.data
  | .error f => .error (f.message cs)

end BrowserPilot.Toml
