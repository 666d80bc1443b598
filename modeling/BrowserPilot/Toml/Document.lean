import BrowserPilot.Toml.Fault

/-!
# Building documents

A document is built statement by statement. Beside its values it keeps which
namespaces may not be declared again and which may not be changed at all.
-/

namespace BrowserPilot.Toml

/-! ## Values by key -/

/-- Changes the table behind a key, which is made if it is missing. With
`throughLists` a list of tables stands for its last table. Gives nothing when
the key leads to something that is no table. -/
def within? (throughLists : Bool) (f : Json.Members → Option Json.Members) : Key → Json.Members → Option Json.Members
  | [], m => f m
  | name :: rest, m =>
    match Json.get? m name with
    | none => (within? throughLists f rest []).map fun inner => Json.put name (.obj inner) m
    | some (.obj inner) => (within? throughLists f rest inner).map fun inner => Json.put name (.obj inner) m
    | some (.arr items) =>
      if throughLists then
        match items.getLast? with
        | some (.obj inner) =>
          (within? throughLists f rest inner).map fun inner => Json.put name (.arr (items.dropLast ++ [.obj inner])) m
        | _ => none
      else none
    | some _ => none

def appendTable? (name : String) (m : Json.Members) : Option Json.Members :=
  match Json.get? m name with
  | none => some (Json.put name (.arr [.obj []]) m)
  | some (.arr items) => some (Json.put name (.arr (items ++ [.obj []])) m)
  | some _ => none

def splitLast : Key → Key × String
  | [] => ([], "")
  | [name] => ([], name)
  | name :: rest => let r := splitLast rest; (name :: r.1, r.2)

/-- The keys of the tables that lead to a value, the outermost first. -/
def leading (k : Key) : List Key := (List.range (k.length - 1)).map fun i => k.take (i + 1)

def isContainer : Json → Bool
  | .obj _ | .arr _ => true
  | _ => false

/-! ## Documents -/

structure Document where
  data : Json.Members := []
  /-- Namespaces that may not be declared again. -/
  declared : List Key := []
  /-- Namespaces that count as declared from the next declaration on. -/
  pending : List Key := []
  /-- Values that may not be changed, with all that is in them. -/
  closed : List Key := []
  /-- The table that is being filled. -/
  header : Key := []

namespace Document

def isDeclared (d : Document) (k : Key) : Bool := d.declared.contains k

def isClosed (d : Document) (k : Key) : Bool := d.closed.any fun c => c.isPrefixOf k

/-- Settles what is declared before a new declaration. -/
def settle (d : Document) : Document := { d with declared := d.declared ++ d.pending, pending := [] }

def declareTable (k : Key) (d : Document) : Except Complaint Document :=
  if d.isDeclared k || d.isClosed k then .error (.declaredTwice k)
  else
    match within? true some k d.data with
    | none => .error .overwritten
    | some data => .ok { d with data, declared := k :: d.declared, header := k }

/-- Declares the next table of a list; what was said about the one before it
does not hold for this one. -/
def declareTableOfList (k : Key) (d : Document) : Except Complaint Document :=
  if d.isClosed k then .error (.closed k)
  else
    let (parent, name) := splitLast k
    match within? true (appendTable? name) parent d.data with
    | none => .error .overwritten
    | some data =>
      .ok { d with
        data, header := k, declared := k :: d.declared.filter fun c => !k.isPrefixOf c
        closed := d.closed.filter fun c => !k.isPrefixOf c }

def putNew? (name : String) (v : Json) (m : Json.Members) : Option Json.Members :=
  match Json.get? m name with
  | none => some (Json.put name v m)
  | some _ => none

def assign (k : Key) (v : Json) (d : Document) : Except Complaint Document :=
  let around := (leading k).map (d.header ++ ·)
  let (parent, name) := splitLast k
  match around.find? d.isDeclared with
  | some c => .error (.reopened c)
  | none =>
    if d.isClosed (d.header ++ parent) then .error (.closed (d.header ++ parent))
    else
      match within? true (putNew? name v) (d.header ++ parent) d.data with
      | none => .error .overwritten
      | some data =>
        .ok { d with
          data, pending := d.pending ++ around
          closed := if isContainer v then (d.header ++ k) :: d.closed else d.closed }

end Document

/-! ## Tables on one line -/

/-- A table on one line, and the members that may not be changed any more. -/
structure InlineTable where
  data : Json.Members := []
  closed : List Key := []

/-- Gives a key a value; lists are never entered. -/
def InlineTable.assign (k : Key) (v : Json) (t : InlineTable) : Except Complaint InlineTable :=
  let (parent, name) := splitLast k
  if t.closed.any fun c => c.isPrefixOf k then .error (.closed k)
  else
    match within? false some parent t.data with
    | none => .error .overwritten
    | some _ =>
      match within? false (Document.putNew? name v) parent t.data with
      | none => .error (.duplicate name)
      | some data => .ok { data, closed := if isContainer v then k :: t.closed else t.closed }

end BrowserPilot.Toml
