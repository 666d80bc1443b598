import BrowserPilot.Text.Blank
import BrowserPilot.Text.Digit
import BrowserPilot.Text.WordChar

/-!
# Searching a line

A `Matcher` reads something at the start of a text and gives what it read and
the rest. `firstAt` tries a matcher at every place of a line from the left.
-/

namespace BrowserPilot.Text

/-- Reads from the start of a text; gives the value and what is left. -/
abbrev Matcher (α : Type) := List Char → Option (α × List Char)

def after? (lit : List Char) (cs : List Char) : Option (List Char) := lit.isPrefixOf? cs

def afterAny? (lits : List (List Char)) (cs : List Char) : Option (List Char) := lits.findSome? fun l => after? l cs

/-- The first success of `m` from the left. With `atWord`, places after a
word character are passed over; `afterWord` says whether the first place is one. -/
def firstFrom {α : Type} (atWord : Bool) (m : List Char → Option α) : Bool → List Char → Option α
  | afterWord, [] => if atWord && afterWord then none else m []
  | afterWord, c :: rest =>
    match if atWord && afterWord then none else m (c :: rest) with
    | some a => some a
    | none => firstFrom atWord m (isWord c) rest

def firstAt {α : Type} (m : List Char → Option α) (cs : List Char) : Option α := firstFrom false m false cs

def firstAtWord {α : Type} (m : List Char → Option α) (cs : List Char) : Option α := firstFrom true m false cs

def contains (lit cs : List Char) : Bool := (firstAt (after? lit) cs).isSome

def leadingDigits (cs : List Char) : List Char × List Char := (cs.takeWhile isDigit, cs.dropWhile isDigit)

/-! ## Letters regardless of case -/

/-- Whether a character is the lower-case ASCII letter `l` up to case. The
long s, the Kelvin sign and the two Turkish letters i count as well. -/
def sameLetter (l c : Char) : Bool :=
  c == l || c.toLower == l || (l == 's' && c == 'ſ') || (l == 'k' && c == '\u212A') ||
    (l == 'i' && (c == 'ı' || c == 'İ'))

def afterWord? : List Char → List Char → Option (List Char)
  | [], cs => some cs
  | _ :: _, [] => none
  | l :: ls, c :: cs => if sameLetter l c then afterWord? ls cs else none

/-! ## Quoted text -/

def isQuote (c : Char) : Bool := c = '\'' || c = '"' || c = '`'

/-- Text between two quotes of any kind, with no quote of any kind inside. -/
def quoted? : List Char → Option (List Char × List Char)
  | c :: rest =>
    if isQuote c then
      match rest.dropWhile fun c => !isQuote c with
      | _ :: after => some (rest.takeWhile fun c => !isQuote c, after)
      | [] => none
    else none
  | [] => none

end BrowserPilot.Text
