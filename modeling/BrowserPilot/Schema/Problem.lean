/-!
# Problems found in raw values

A raw value is checked as a whole: every field that does not fit adds a
`Problem`, which says where it is and what is wrong there.
-/

namespace BrowserPilot.Schema

inductive Complaint where
  | missing
  | unexpected
  | notRecord (model : String)
  /-- No raw value stands for this kind of thing. -/
  | notInstance (kind : String)
  | notList
  | notObject
  | notText
  | notPath
  | notWhole
  | unreadableWhole
  | fractional
  | wholeTooLong
  | notFinite
  | notNumber
  | unreadableNumber
  | notTruth
  | unreadableTruth
  | notAbove (bound : Int)
  | below (bound : Int)
  | notChoice (choices : List String)
  | notMember (choices : List String)
  | notTagged
  | tagMissing
  | tagUnknown (tag : String) (expected : List String)
  | frozen
  | refused (reason : String)
  deriving DecidableEq, Repr

namespace Complaint

/-- Choices with commas, and `or` before the last. -/
def orList : List String → String
  | [] => ""
  | [a] => a
  | [a, b] => a ++ " or " ++ b
  | a :: rest => a ++ ", " ++ orList rest

def message : Complaint → String
  | missing => "Field required"
  | unexpected => "Extra inputs are not permitted"
  | notRecord model => "Input should be a valid dictionary or instance of " ++ model
  | notInstance kind => "Input should be an instance of " ++ kind
  | notList => "Input should be a valid list"
  | notObject => "Input should be a valid dictionary"
  | notText => "Input should be a valid string"
  | notPath => "Input is not a valid path for <class 'pathlib.Path'>"
  | notWhole => "Input should be a valid integer"
  | unreadableWhole => "Input should be a valid integer, unable to parse string as an integer"
  | fractional => "Input should be a valid integer, got a number with a fractional part"
  | wholeTooLong => "Unable to parse input string as an integer, exceeded maximum size"
  | notFinite => "Input should be a finite number"
  | notNumber => "Input should be a valid number"
  | unreadableNumber => "Input should be a valid number, unable to parse string as a number"
  | notTruth => "Input should be a valid boolean"
  | unreadableTruth => "Input should be a valid boolean, unable to interpret input"
  | notAbove bound => "Input should be greater than " ++ toString bound
  | below bound => "Input should be greater than or equal to " ++ toString bound
  | notChoice choices | notMember choices => "Input should be " ++ orList choices
  | notTagged => "Input should be a valid dictionary or object to extract fields from"
  | tagMissing => "Unable to extract tag using discriminator 'action'"
  | tagUnknown tag expected =>
    "Input tag '" ++ tag ++ "' found using 'action' does not match any of the expected tags: " ++
      ", ".intercalate expected
  | frozen => "Instance is frozen"
  | refused reason => "Value error, " ++ reason

def code : Complaint → String
  | missing => "missing"
  | unexpected => "extra_forbidden"
  | notRecord _ => "model_type"
  | notInstance _ => "is_instance_of"
  | notList => "list_type"
  | notObject => "dict_type"
  | notText => "string_type"
  | notPath => "path_type"
  | notWhole => "int_type"
  | unreadableWhole => "int_parsing"
  | fractional => "int_from_float"
  | wholeTooLong => "int_parsing_size"
  | notFinite => "finite_number"
  | notNumber => "float_type"
  | unreadableNumber => "float_parsing"
  | notTruth => "bool_type"
  | unreadableTruth => "bool_parsing"
  | notAbove _ => "greater_than"
  | below _ => "greater_than_equal"
  | notChoice _ => "literal_error"
  | notMember _ => "enum"
  | notTagged => "model_attributes_type"
  | tagMissing => "union_tag_not_found"
  | tagUnknown .. => "union_tag_invalid"
  | frozen => "frozen_instance"
  | refused _ => "value_error"

end Complaint

structure Problem where
  path : List String
  complaint : Complaint
  deriving DecidableEq, Repr

namespace Problem

def place (p : Problem) : String := ".".intercalate p.path

def line (p : Problem) : String :=
  p.place ++ ": " ++ p.complaint.message ++ " [" ++ p.complaint.code ++ "]"

def inside (name : String) (p : Problem) : Problem := ⟨name :: p.path, p.complaint⟩

def report (problems : List Problem) : String := "\n".intercalate (problems.map line)

end Problem

/-- A value, or everything that is wrong with its raw form. -/
abbrev Checked (α : Type) := Except (List Problem) α

namespace Checked

def fail {α : Type} (c : Complaint) : Checked α := .error [⟨[], c⟩]

/-- Both sides are checked; the problems of the first come first. -/
def ap {α β : Type} (f : Checked (α → β)) (x : Checked α) : Checked β :=
  match f, x with
  | .ok f, .ok a => .ok (f a)
  | .ok _, .error q => .error q
  | .error p, .ok _ => .error p
  | .error p, .error q => .error (p ++ q)

def inside {α : Type} (name : String) (x : Checked α) : Checked α := x.mapError (·.map (Problem.inside name))

def alsoWith {α : Type} (x : Checked α) (more : List Problem) : Checked α :=
  match x, more with
  | .ok a, [] => .ok a
  | .ok _, more => .error more
  | .error p, more => .error (p ++ more)

/-- All items, each at its index. -/
def list {α β : Type} (f : α → Checked β) : Nat → List α → Checked (List β)
  | _, [] => .ok []
  | k, a :: rest => ap ((inside (toString k) (f a)).map List.cons) (list f (k + 1) rest)

end Checked

end BrowserPilot.Schema
