import BrowserPilot.Text.Blank
import BrowserPilot.Text.CellWidth
import BrowserPilot.Text.Split

/-!
# Fitting text into a width

A line that is too wide is broken between words. A word that is too wide for
any line is broken anywhere, or stays whole and is cut with a mark at its end.
-/

namespace BrowserPilot.Console

open Text

inductive Overflow where
  | fold | ellipsis
  deriving DecidableEq, Repr

inductive Alignment where
  /-- At the left, without blanks to fill the width. -/
  | natural
  | left | center | right
  deriving DecidableEq, Repr

def trimEnd (cs : List Char) : List Char := (cs.reverse.dropWhile isBlank).reverse

/-! ## Breaking lines -/

/-- The words of a line, each with the blanks after it, the first also with
those before it. `acc` is the open word, reversed. -/
def wordsFrom : List Char → List Char → List (List Char)
  | acc, [] => [acc.reverse]
  | acc, c :: rest =>
    match acc with
    | b :: _ =>
      if isBlank b && !isBlank c && acc.any fun a => !isBlank a then acc.reverse :: wordsFrom [c] rest
      else wordsFrom (c :: acc) rest
    | [] => wordsFrom [c] rest

def words (line : List Char) : List (List Char) := wordsFrom [] line

/-- A word cut into pieces that fit; `used` cells of the open piece, which is
reversed, are taken. -/
def chopFrom (width : Nat) : List Char → Nat → List Char → List (List Char)
  | acc, _, [] => [acc.reverse]
  | acc, used, c :: rest =>
    if width < used + cellWidth c then acc.reverse :: chopFrom width [c] (cellWidth c) rest
    else chopFrom width (c :: acc) (used + cellWidth c) rest

def closed (line : List Char) : List (List Char) := if line.isEmpty then [] else [line]

/-- Puts words on lines; `line` is the open one. -/
def fill (o : Overflow) (width : Nat) : List (List Char) → List Char → List (List Char)
  | [], line => [line]
  | w :: rest, line =>
    let needed := cells (trimEnd w)
    if cells line + needed ≤ width then fill o width rest (line ++ w)
    else if width < needed && o == .fold then
      let pieces := chopFrom width [] 0 w
      closed line ++ (pieces.dropLast ++ fill o width rest (pieces.getLast?.getD []))
    else closed line ++ fill o width rest w

/-! ## Shaping lines -/

/-- The characters that fit; where half of a wide one would fit, a blank. -/
def takeCells : Nat → List Char → List Char
  | 0, _ => []
  | _, [] => []
  | n + 1, c :: rest =>
    if cellWidth c ≤ n + 1 then c :: takeCells (n + 1 - cellWidth c) rest else List.replicate (n + 1) ' '

def clip (o : Overflow) (width : Nat) (line : List Char) : List Char :=
  if cells line ≤ width then line
  else
    match o with
    | .fold => takeCells width line
    | .ellipsis => takeCells (width - 1) line ++ ['…']

def padTo (width : Nat) (line : List Char) : List Char := line ++ List.replicate (width - cells line) ' '

def dropExcess (width : Nat) (line : List Char) : List Char :=
  let blanks := line.length - (trimEnd line).length
  line.take (line.length - min blanks (line.length - width))

def align (a : Alignment) (o : Overflow) (width : Nat) (line : List Char) : List Char :=
  let body := clip o width (trimEnd line)
  match a with
  | .natural => clip o width line
  | .left => padTo width (clip o width line)
  | .center => padTo width (List.replicate ((width - cells body) / 2) ' ' ++ body)
  | .right => List.replicate (width - cells body) ' ' ++ body

def tabSize : Nat := 8

def expandTabs : Nat → List Char → List Char
  | _, [] => []
  | column, '\t' :: rest =>
    let n := tabSize - column % tabSize
    List.replicate n ' ' ++ expandTabs (column + n) rest
  | column, c :: rest => c :: expandTabs (column + cellWidth c) rest

def wrap (a : Alignment) (o : Overflow) (width : Nat) (text : List Char) : List (List Char) :=
  (splitOn ['\n'] text).flatMap fun line =>
    (fill o width (words (expandTabs 0 line)) []).map fun l => align a o width (dropExcess width l)

end BrowserPilot.Console
