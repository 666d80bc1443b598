import BrowserPilot.Text.Blank
import BrowserPilot.Text.Split

/-!
# Markup

Text for a console may hold tags in square brackets, such as `[red]` and
`[/red]`, that change its style. A console without colours leaves the tags
out. A bracket that starts no tag is text, and so is a tag after a backslash.
-/

namespace BrowserPilot.Console

structure Unopened where
  tag : String
  deriving DecidableEq, Repr

inductive Piece where
  | char (c : Char)
  | tag (content : List Char)
  deriving DecidableEq, Repr

namespace Markup

/-- Characters that the content of a tag can start with. -/
def startsTag (c : Char) : Bool := c.isLower || c = '#' || c = '/' || c = '@'

/-- The content of a tag and what follows it, from after the opening bracket on. -/
def tag? : List Char → Option (List Char × List Char)
  | [] => none
  | c :: rest =>
    if startsTag c then
      match rest.dropWhile fun c => c != '[' && c != ']' with
      | ']' :: after => some (c :: rest.takeWhile fun c => c != '[' && c != ']', after)
      | _ => none
    else none

/-- The pieces of a text. `escapes` backslashes stand right before it, and
`skip` characters belong to a tag that has been read already. -/
def piecesFrom (escapes : Nat) : Nat → List Char → List Piece
  | _, [] => List.replicate escapes (.char '\\')
  | skip + 1, _ :: rest => piecesFrom escapes skip rest
  | 0, '\\' :: rest => piecesFrom (escapes + 1) 0 rest
  | 0, '[' :: rest =>
    match tag? rest with
    | some (content, _) =>
      -- two backslashes write one, and a single one that is left makes the tag plain text
      let piece := if escapes % 2 = 0 then [Piece.tag content]
        else (.char '[' :: content.map .char) ++ [.char ']']
      List.replicate (escapes / 2) (.char '\\') ++ (piece ++ piecesFrom 0 (content.length + 1) rest)
    | none => List.replicate (escapes - 1) (.char '\\') ++ (.char '[' :: piecesFrom 0 0 rest)
  | 0, c :: rest => List.replicate escapes (.char '\\') ++ (.char c :: piecesFrom 0 0 rest)

def pieces (cs : List Char) : List Piece := piecesFrom 0 0 cs

def nameOf (content : List Char) : List Char := (Text.trim (content.takeWhile (· != '='))).map Char.toLower

/-- The open tags after a tag, the innermost first. -/
def openAfter (content : List Char) (opened : List (List Char)) : Except Unopened (List (List Char)) :=
  match content with
  | '/' :: rest =>
    match nameOf rest, opened with
    | [], _ :: others => .ok others
    | name, opened =>
      if name ≠ [] ∧ opened.contains name then .ok (opened.erase name) else .error ⟨String.ofList content⟩
  | content => .ok (nameOf content :: opened)

def textOf : List Piece → List (List Char) → Except Unopened (List Char)
  | [], _ => .ok []
  | .char c :: rest, opened => (textOf rest opened).map (c :: ·)
  | .tag content :: rest, opened => (openAfter content opened).bind (textOf rest)

def isControl (c : Char) : Bool := [7, 8, 11, 12, 13].contains c.toNat

def plain (s : String) : Except Unopened (List Char) :=
  let text := if s.toList.contains '[' then textOf (pieces s.toList) [] else .ok s.toList
  text.map fun cs => cs.filter fun c => !isControl c

end Markup

end BrowserPilot.Console
