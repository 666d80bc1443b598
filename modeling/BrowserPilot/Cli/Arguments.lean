import BrowserPilot.Text.Blank
import BrowserPilot.Text.Digit
import BrowserPilot.Text.Split

/-!
# Arguments of a command

Arguments are options and operands. A long option starts with two dashes and
takes its value from the next argument or after an equals sign. Short options
are single letters that can share a dash, and the value of one may follow it
directly. After two dashes alone everything is an operand.
-/

namespace BrowserPilot.Cli

inductive UsageFault where
  | unknownOption (name : String)
  | missingValue (name : String)
  | unexpectedValue (name : String)
  | invalidValue (name value : String)
  | missingOperand (name : String)
  | extraOperand (value : String)
  | unknownCommand (name : String)
  | missingCommand
  deriving DecidableEq, Repr

namespace UsageFault

def message : UsageFault → String
  | unknownOption name => "no such option: " ++ name
  | missingValue name => "option " ++ name ++ " requires a value"
  | unexpectedValue name => "option " ++ name ++ " takes no value"
  | invalidValue name value => "invalid value for " ++ name ++ ": " ++ value
  | missingOperand name => "missing " ++ name
  | extraOperand value => "unexpected extra argument: " ++ value
  | unknownCommand name => "no such command: " ++ name
  | missingCommand => "missing command"

end UsageFault

structure OptionShape where
  name : String
  letter : Option Char := none
  takesValue : Bool := false

structure Arguments where
  /-- Options with their values, in order; the value of a switch is empty. -/
  options : List (String × String) := []
  operands : List String := []
  deriving DecidableEq, Repr

namespace Arguments

def has (name : String) (a : Arguments) : Bool := a.options.any fun o => o.1 == name

/-- The value of an option; of several the last. -/
def value? (name : String) (a : Arguments) : Option String := (a.options.reverse.find? fun o => o.1 == name).map (·.2)

def withOption (name value : String) (a : Arguments) : Arguments := { a with options := (name, value) :: a.options }

def withOperand (s : String) (a : Arguments) : Arguments := { a with operands := s :: a.operands }

/-- What the letters behind one dash say: the options, and the name of the last
one if its value is the next argument. -/
def readLetters (known : List OptionShape) : List Char → Except UsageFault (List (String × String) × Option String)
  | [] => .ok ([], none)
  | c :: rest =>
    match known.find? fun o => o.letter == some c with
    | none => .error (.unknownOption (String.ofList ['-', c]))
    | some o =>
      if o.takesValue then
        if rest.isEmpty then .ok ([], some o.name) else .ok ([(o.name, String.ofList rest)], none)
      else (readLetters known rest).map fun r => ((o.name, "") :: r.1, r.2)

def readOption (known : List OptionShape) (arg : List Char) : Except UsageFault (List (String × String) × Option String) :=
  let (name, given) := match Text.cut? ['='] arg with
    | some (name, value) => (String.ofList name, some (String.ofList value))
    | none => (String.ofList arg, none)
  match known.find? fun o => o.name == name with
  | some o =>
    match o.takesValue, given with
    | true, some value => .ok ([(o.name, value)], none)
    | true, none => .ok ([], some o.name)
    | false, some _ => .error (.unexpectedValue o.name)
    | false, none => .ok ([(o.name, "")], none)
  | none =>
    match arg with
    | '-' :: '-' :: _ => .error (.unknownOption name)
    | _ => readLetters known arg.tail

/-- What a list of arguments says. Unless `mixed`, options end at the first
operand. `pending` is an option that waits for its value. -/
def readFrom (known : List OptionShape) (mixed : Bool) : Option String → List String → Except UsageFault Arguments
  | some name, [] => .error (.missingValue name)
  | some name, arg :: rest => (readFrom known mixed none rest).map (withOption name arg)
  | none, [] => .ok {}
  | none, arg :: rest =>
    match arg.toList with
    | ['-', '-'] => .ok { operands := rest }
    | '-' :: c :: cs => do
      let (options, pending) ← readOption known ('-' :: c :: cs)
      let a ← readFrom known mixed pending rest
      .ok { a with options := options ++ a.options }
    | _ => if mixed then (readFrom known mixed none rest).map (withOperand arg) else .ok { operands := arg :: rest }

def read (known : List OptionShape) (args : List String) : Except UsageFault Arguments := readFrom known true none args

def readBefore (known : List OptionShape) (args : List String) : Except UsageFault Arguments :=
  readFrom known false none args

/-! ## Whole numbers -/

def mostDigits : Nat := 4300

/-- The digits of a number, in which single underscores may stand between two
digits. -/
def digits? : List Char → Option (List Char)
  | [] => none
  | [c] => if Text.isDigit c then some [c] else none
  | c :: '_' :: rest => if Text.isDigit c then (digits? rest).map (c :: ·) else none
  | c :: d :: rest => if Text.isDigit c then (digits? (d :: rest)).map (c :: ·) else none

def wholeNumber? (s : String) : Option Int :=
  let (negative, body) := match Text.trim s.toList with
    | '-' :: rest => (true, rest)
    | '+' :: rest => (false, rest)
    | cs => (false, cs)
  match digits? body with
  | none => none
  | some ds =>
    if mostDigits < ds.length then none
    else some (if negative then -(Text.readNat ds : Int) else Text.readNat ds)

def number? (name : String) (a : Arguments) : Except UsageFault (Option Int) :=
  match a.value? name with
  | none => .ok none
  | some s =>
    match wholeNumber? s with
    | some n => .ok (some n)
    | none => .error (.invalidValue name s)

end Arguments

end BrowserPilot.Cli
