import BrowserPilot.Numeric.Amount
import BrowserPilot.Numeric.Shortest

/-!
# Structured values

The values that documents, events and raw step descriptions are made of. The
members of an object keep the order in which they were first written. Whole
numbers have any size and differ from doubles with the same value.
-/

namespace BrowserPilot

inductive Json where
  | null
  | bool (b : Bool)
  | int (n : Int)
  | num (x : Binary64)
  | str (s : String)
  | arr (items : List Json)
  | obj (members : List (String × Json))
  deriving Inhabited, Repr

namespace Json

/-! ## Equality -/

mutual

def same : Json → Json → Bool
  | .null, .null => true
  | .bool a, .bool b => a = b
  | .int m, .int n => m = n
  | .num x, .num y => x = y
  | .str s, .str t => s = t
  | .arr vs, .arr ws => sameItems vs ws
  | .obj m, .obj n => sameMembers m n
  | _, _ => false

def sameItems : List Json → List Json → Bool
  | [], [] => true
  | v :: vs, w :: ws => same v w && sameItems vs ws
  | _, _ => false

def sameMembers : List (String × Json) → List (String × Json) → Bool
  | [], [] => true
  | (k, v) :: m, (l, w) :: n => k = l && same v w && sameMembers m n
  | _, _ => false

end

mutual

theorem same_iff (v w : Json) : same v w = true ↔ v = w := by
  cases v <;> cases w <;> simp [same, sameItems_iff, sameMembers_iff]

theorem sameItems_iff : (vs ws : List Json) → (sameItems vs ws = true ↔ vs = ws)
  | [], ws => by cases ws <;> simp [sameItems]
  | v :: vs, ws => by cases ws <;> simp [sameItems, same_iff v, sameItems_iff vs]

theorem sameMembers_iff : (m n : List (String × Json)) → (sameMembers m n = true ↔ m = n)
  | [], n => by cases n <;> simp [sameMembers]
  | (k, v) :: m, n => by cases n <;> simp [sameMembers, same_iff v, sameMembers_iff m, Prod.ext_iff]

end

instance : DecidableEq Json := fun v w => decidable_of_iff _ (same_iff v w)

/-! ## Members -/

abbrev Members := List (String × Json)

/-- Gives a name a value: in its old place if it is there, else at the end. -/
def put (name : String) (value : Json) : Members → Members
  | [] => [(name, value)]
  | (k, v) :: rest => if k = name then (k, value) :: rest else (k, v) :: put name value rest

def override (base upper : Members) : Members := upper.foldl (fun m kv => put kv.1 kv.2 m) base

/-- Members in writing order, where a later value of a name replaces an earlier one. -/
def ofWritten (written : Members) : Members := override [] written

def get? (members : Members) (name : String) : Option Json := members.lookup name

def member? : Json → String → Option Json
  | .obj members, name => get? members name
  | _, _ => none

def ofNat (n : Nat) : Json := .int n

def amount : Amount → Json
  | .whole n => .int n
  | .part x => .num x

def ofOption {α : Type} (f : α → Json) : Option α → Json
  | none => .null
  | some a => f a

def isNull : Json → Bool
  | .null => true
  | _ => false

end Json

end BrowserPilot
