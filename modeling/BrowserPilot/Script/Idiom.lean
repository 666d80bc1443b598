import BrowserPilot.Step.Action
import BrowserPilot.Text.Search

/-!
# Call idioms

The calls that a script line can contain and the action each of them stands
for. An idiom is searched for in the whole line and read at the first place
where its call opens; an argument that is missing or not a literal is taken as
empty. When several idioms occur in a line, the last one of the table counts.
-/

namespace BrowserPilot.Script

open Text

structure NumberTooLong where
  digits : Nat
  deriving DecidableEq, Repr

def digitLimit : Nat := 4300

def number (digits : List Char) : Except NumberTooLong Nat :=
  if digitLimit < digits.length then .error ⟨digits.length⟩ else .ok (readNat digits)

/-! ## Arguments -/

def firstLiteral (cs : List Char) : List Char × List Char :=
  match quoted? (skipBlanks cs) with
  | some r => r
  | none => ([], skipBlanks cs)

def nextLiteral (cs : List Char) : List Char :=
  match skipBlanks cs with
  | ',' :: rest =>
    match quoted? (skipBlanks rest) with
    | some r => r.1
    | none => []
  | _ => []

def literal (cs : List Char) : String := String.ofList (firstLiteral cs).1

/-- Whether a line asks for the full page: `fullPage: true` or `full_page=True`. -/
def asksFullPage (line : List Char) : Bool :=
  let flag (name : String) (sign : Char) (value : String) (cs : List Char) : Option Unit :=
    match (after? name.toList cs).map skipBlanks with
    | some (c :: rest) => if c = sign then (after? value.toList (skipBlanks rest)).map fun _ => () else none
    | _ => none
  (firstAt (fun cs => (flag "fullPage" ':' "true" cs).orElse fun _ => flag "full_page" '=' "True" cs) line).isSome

/-- The vertical target of a scroll: the second argument, when it is a number. -/
def scrollTarget (cs : List Char) : Except NumberTooLong ScrollTarget :=
  -- the first argument is passed over unread; with a bracket in it there is no second one
  match (skipBlanks cs).dropWhile fun c => !(c = ',' || c = '(' || c = ')') with
  | ',' :: rest =>
    let digits := (leadingDigits (skipBlanks rest)).1
    if digits.isEmpty then .ok .bottom else (number digits).map .pixels
  | _ => .ok .bottom

/-! ## The table -/

structure Idiom where
  /-- The spellings of the call, the opening bracket included. -/
  calls : List String
  /-- Whether the call has to start where a word can start. -/
  atWord : Bool := true
  /-- The action, from the whole line and what follows the opening bracket. -/
  action : List Char → List Char → Except NumberTooLong Action

def idioms : List Idiom := [
  { calls := ["page.goto("], action := fun _ cs => .ok (.navigate (literal cs)) },
  { calls := ["page.click("], action := fun _ cs => .ok (.click (literal cs)) },
  { calls := ["page.fill("]
    action := fun _ cs =>
      let (selector, rest) := firstLiteral cs
      .ok (.type (String.ofList selector) (String.ofList (nextLiteral rest))) },
  { calls := ["page.waitForTimeout(", "page.wait_for_timeout("]
    action := fun _ cs =>
      let digits := (leadingDigits (skipBlanks cs)).1
      (number digits).map fun ms => .wait .time ms "" },
  { calls := ["page.waitForSelector(", "page.wait_for_selector("]
    action := fun _ cs => .ok (.wait .selector 0 (literal cs)) },
  { calls := ["page.$$eval(", "page.eval_on_selector_all("]
    action := fun _ cs => .ok (.extract (literal cs)) },
  { calls := ["page.screenshot("], action := fun line _ => .ok (.screenshot (asksFullPage line)) },
  { calls := ["window.scrollTo("], atWord := false
    action := fun _ cs => (scrollTarget cs).map fun t => .scroll t .down }]

def Idiom.find? (i : Idiom) (line : List Char) : Option (Except NumberTooLong Action) :=
  (firstFrom i.atWord (afterAny? (i.calls.map String.toList)) false line).map (i.action line)

/-- The action of a line: that of the last idiom of the table that occurs. -/
def findAction (line : List Char) : List Idiom → Option Action → Except NumberTooLong (Option Action)
  | [], found => .ok found
  | i :: rest, found =>
    match i.find? line with
    | none => findAction line rest found
    | some (.ok a) => findAction line rest (some a)
    | some (.error e) => .error e

/-! ## Other marks of a line -/

/-- A comment that opens a step: the word for step and a number. -/
def isMarker (line : List Char) : Bool :=
  match afterAny? ["//".toList, "#".toList] line with
  | none => false
  | some rest =>
    let rest := skipBlanks rest
    let number (cs : List Char) : Bool := !(leadingDigits (skipBlanks cs)).1.isEmpty
    match afterWord? "step".toList rest, after? "خطوة".toList rest with
    | some rest, _ => number rest
    | none, some rest => number rest
    | none, none => false

def retryDigits? (line : List Char) : Option (List Char) :=
  firstAtWord (fun cs =>
    match after? "retries_step".toList cs with
    | none => none
    | some rest =>
      match skipBlanks (rest.dropWhile isWord) with
      -- a comparison has another sign, or two of them, before its digits
      | '=' :: rest =>
        let digits := (leadingDigits (skipBlanks rest)).1
        if digits.isEmpty then none else some digits
      | _ => none) line

def skipsErrors (line : List Char) : Bool :=
  (["console.warn(", "logger.warning(", "logging.warning("].any fun call => contains call.toList line) &&
    ((firstAt (fun cs => (afterWord? "skip".toList cs).orElse fun _ => afterWord? "ignor".toList cs) line).isSome ||
      contains "تخطي الخطأ".toList line)

/-- A call on the page, whatever its name. -/
def hasPageCall (line : List Char) : Bool :=
  (firstAtWord (fun cs =>
    match after? "page.".toList cs with
    | none => none
    | some rest =>
      let isNameChar (c : Char) : Bool := isWord c || c = '$'
      match rest.takeWhile isNameChar, rest.dropWhile isNameChar with
      | _ :: _, '(' :: _ => some ()
      | _, _ => none) line).isSome

end BrowserPilot.Script
