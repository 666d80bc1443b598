import BrowserPilot.Json.Reader
import BrowserPilot.Schema.Problem
import BrowserPilot.Text.Blank

/-!
# Reading typed values from raw ones

A `Reader` turns a raw value into a typed one, or says what is wrong with it.
Readers are lenient: a whole number may come as text, as a truth value or as a
double without fraction.
-/

namespace BrowserPilot.Schema

abbrev Reader (α : Type) := Json → Checked α

/-! ## Text forms of numbers -/

/-- White space in the narrow sense, without the information separators. -/
def isNarrowBlank (c : Char) : Bool := Text.isBlank c && !(decide (0x1C ≤ c.toNat) && decide (c.toNat ≤ 0x1F))

def plainDigits : List Char → Option (List Char)
  | [] => none
  | [c] => if Json.isAsciiDigit c then some [c] else none
  | c :: '_' :: rest => if Json.isAsciiDigit c then (plainDigits rest).map (c :: ·) else none
  | c :: rest => if Json.isAsciiDigit c then (plainDigits rest).map (c :: ·) else none

def splitSign : List Char → Bool × List Char
  | '-' :: rest => (true, rest)
  | '+' :: rest => (false, rest)
  | cs => (false, cs)

def wholeOfText (s : String) : Checked Int :=
  let cs := Text.trimBy isNarrowBlank s.toList
  if 4300 < cs.length then .fail .wholeTooLong
  else
    let (negative, body) := splitSign cs
    let whole := body.takeWhile (· ≠ '.')
    let zeros := body.dropWhile (· ≠ '.')
    match plainDigits whole, zeros with
    | some digits, [] | some digits, '.' :: '0' :: _ =>
      if (zeros.drop 1).all (· = '0') then
        .ok (if negative then -(Text.readNat digits : Int) else Text.readNat digits)
      else .fail .unreadableWhole
    | _, _ => .fail .unreadableWhole

/-- The fraction and exponent of a number in text form, read to the end. -/
def scaledOfText (negative : Bool) (whole : List Char) (rest : List Char) : Option Binary64 :=
  let (fraction, rest) : List Char × List Char :=
    match rest with
    | '.' :: r => (r.takeWhile fun c => Json.isAsciiDigit c || c = '_', r.dropWhile fun c => Json.isAsciiDigit c || c = '_')
    | r => ([], r)
  let exponent? : Option Int :=
    match rest with
    | [] => some 0
    | e :: r =>
      if e = 'e' ∨ e = 'E' then
        let (down, digits) := splitSign r
        (plainDigits digits).map fun ds => if down then -(Text.readNat ds : Int) else Text.readNat ds
      else none
  let digits? (cs : List Char) : Option (List Char) := if cs.isEmpty then some [] else plainDigits cs
  match digits? whole, digits? fraction, exponent? with
  | some w, some f, some e =>
    -- digits may be missing on one side of the point
    if w.isEmpty && f.isEmpty then none
    else some (.ofDecimal negative (Text.readNat (w ++ f)) (e - f.length))
  | _, _, _ => none

/-- A number in text form: digits with an optional fraction and exponent, or
one of the words for infinity and not-a-number, in any case. -/
def numberOfText (blank : Char → Bool) (s : String) : Option Binary64 :=
  let (negative, body) := splitSign (Text.trimBy blank s.toList)
  let word := String.ofList (body.map Char.toLower)
  if word = "inf" ∨ word = "infinity" then some (.infinite negative)
  else if word = "nan" then some .nan
  else
    let whole := body.takeWhile fun c => Json.isAsciiDigit c || c = '_'
    scaledOfText negative whole (body.dropWhile fun c => Json.isAsciiDigit c || c = '_')

/-! ## Readers of simple values -/

def text : Reader String
  | .str s => .ok s
  | _ => .fail .notText

/-- Doubles at or beyond `2 ^ 63` are refused. -/
def wholeOfNumber (x : Binary64) : Checked Int :=
  if !x.isFinite then .fail .notFinite
  else
    match x.toInt? with
    | none => .fail .fractional
    | some n => if n.natAbs < twoTo 63 then .ok n else .fail .wholeTooLong

def whole : Reader Int
  | .int n => .ok n
  | .bool b => .ok (if b then 1 else 0)
  | .num x => wholeOfNumber x
  | .str s => wholeOfText s
  | _ => .fail .notWhole

def wholeFrom (bound : Int) (v : Json) : Checked Int :=
  (whole v).bind fun n => if bound ≤ n then .ok n else Checked.fail (.below bound)

def count : Reader Nat := fun v => (wholeFrom 0 v).map Int.toNat

def positive (v : Json) : Checked Nat :=
  (whole v).bind fun n => if 0 < n then .ok n.toNat else Checked.fail (.notAbove 0)

def number : Reader Binary64
  | .int n =>
    match Binary64.ofInt n with
    | .infinite _ => .fail .notNumber
    | x => .ok x
  | .bool b => .ok (.ofNat (if b then 1 else 0))
  | .num x => .ok x
  | .str s =>
    match numberOfText isNarrowBlank s with
    | some x => .ok x
    | none => .fail .unreadableNumber
  | _ => .fail .notNumber

/-- A number that is not below a bound; not-a-number is below every bound. -/
def numberFrom (bound : Int) (v : Json) : Checked Binary64 :=
  (number v).bind fun x => if (Binary64.ofInt bound).le x then .ok x else Checked.fail (.below bound)

def numberAbove (bound : Int) (v : Json) : Checked Binary64 :=
  (number v).bind fun x => if (Binary64.ofInt bound).lt x then .ok x else Checked.fail (.notAbove bound)

def truthWord (s : String) : Option Bool :=
  let w := String.ofList (s.toList.map Char.toLower)
  if ["true", "t", "yes", "y", "on", "1"].contains w then some true
  else if ["false", "f", "no", "n", "off", "0"].contains w then some false
  else none

/-- Zero or one; a number beyond 64 bits is not even taken for a truth value. -/
def truthOfWhole (n : Int) : Checked Bool :=
  if n = 0 then .ok false
  else if n = 1 then .ok true
  else if n.natAbs < twoTo 63 then .fail .unreadableTruth
  else .fail .notTruth

def truth : Reader Bool
  | .bool b => .ok b
  | .int n => truthOfWhole n
  | .num x =>
    match x.toInt? with
    | some n => truthOfWhole n
    | none => .fail .notTruth
  | .str s => match truthWord s with | some b => .ok b | none => .fail .unreadableTruth
  | _ => .fail .notTruth

def word {α : Type} (choices : List (String × α)) (v : Json) : Checked α :=
  match v with
  | .str s =>
    match choices.lookup s with
    | some a => .ok a
    | none => .fail (.notChoice (choices.map fun c => "'" ++ c.1 ++ "'"))
  | _ => .fail (.notChoice (choices.map fun c => "'" ++ c.1 ++ "'"))

def name {α : Type} (choices : List (String × α)) (v : Json) : Checked α :=
  match v with
  | .str s =>
    match choices.lookup s with
    | some a => .ok a
    | none => .fail (.notMember (choices.map fun c => "'" ++ c.1 ++ "'"))
  | _ => .fail (.notMember (choices.map fun c => "'" ++ c.1 ++ "'"))

def items {α : Type} (r : Reader α) : Reader (List α)
  | .arr vs => Checked.list r 0 vs
  | _ => .fail .notList

def object : Reader Json.Members
  | .obj members => .ok members
  | _ => .fail .notObject

/-- Nothing, where something would have to be of a kind that has no raw form. -/
def nothing (kind : String) : Reader Unit
  | .null => .ok ()
  | _ => .fail (.notInstance kind)

def orNothing {α : Type} (r : Reader α) : Reader (Option α)
  | .null => .ok none
  | v => (r v).map some

def entries {α : Type} (r : Reader α) : Json.Members → Checked (List (String × α))
  | [] => .ok []
  | (k, v) :: rest => Checked.ap ((Checked.inside k (r v)).map fun a more => (k, a) :: more) (entries r rest)

def table {α : Type} (r : Reader α) (v : Json) : Checked (List (String × α)) := (object v).bind (entries r)

/-! ## Fields of records -/

def required {α : Type} (field : String) (r : Reader α) (members : Json.Members) : Checked α :=
  match Json.get? members field with
  | some v => Checked.inside field (r v)
  | none => .error [⟨[field], .missing⟩]

def optional {α : Type} (field : String) (otherwise : α) (r : Reader α) (members : Json.Members) : Checked α :=
  match Json.get? members field with
  | some v => Checked.inside field (r v)
  | none => .ok otherwise

def unexpected (known : List String) (members : Json.Members) : List Problem :=
  (members.filter fun kv => !known.contains kv.1).map fun kv => ⟨[kv.1], .unexpected⟩

/-- A record that ignores members it does not know. -/
def record {α : Type} (model : String) (fields : Json.Members → Checked α) : Reader α
  | .obj members => fields members
  | _ => .fail (.notRecord model)

/-- A record that refuses members it does not know. -/
def closedRecord {α : Type} (model : String) (known : List String) (fields : Json.Members → Checked α) : Reader α
  | .obj members => Checked.alsoWith (fields members) (unexpected known members)
  | _ => .fail (.notRecord model)

end BrowserPilot.Schema
