import BrowserPilot.Console.Markup
import BrowserPilot.Console.Wrap
import BrowserPilot.Numeric.Binary64
import BrowserPilot.Text.Lines

/-!
# Tables

A table has a title and columns under a heavy head. A column is as wide as its
widest cell; when the table is too wide for the console, its widest columns
give way first.
-/

namespace BrowserPilot.Console

open Text

structure Column where
  name : String
  alignment : Alignment := .left
  maxWidth : Option Nat := none

structure Table where
  title : String
  columns : List Column
  rows : List (List String)

/-! ## The widths of columns -/

/-- Parts of a total for slots that take part, each at most its maximum and
taken off its value. -/
def reduceBy : (total remaining : Nat) → List (Bool × Nat × Nat) → List Nat
  | _, _, [] => []
  | total, remaining, (takesPart, maximum, value) :: rest =>
    if takesPart && decide (0 < maximum) then
      let part := min maximum (Binary64.halfEven total remaining)
      (value - part) :: reduceBy (total - part) (remaining - 1) rest
    else value :: reduceBy total remaining rest

def reduce (total : Nat) (slots : List (Bool × Nat × Nat)) : List Nat :=
  reduceBy total (slots.countP fun s => s.1 && decide (0 < s.2.1)) slots

def total (widths : List Nat) : Nat := widths.foldl (· + ·) 0

def widest (widths : List Nat) : Nat := widths.foldl max 0

/-- Narrows the widest columns to the width of the next ones, until all fit. -/
def collapse : Nat → Nat → List Nat → List Nat
  | 0, _, widths => widths
  | fuel + 1, limit, widths =>
    let excess := total widths - limit
    let first := widest widths
    let second := widest (widths.filter (· ≠ first))
    if excess = 0 || first = second then widths
    else
      -- no column gets narrower than the next one in a single round
      collapse fuel limit (reduce excess (widths.map fun w => (decide (w = first), min excess (first - second), w)))

def fitWidths (limit : Nat) (widths : List Nat) : List Nat :=
  let narrowed := collapse (total widths + 1) limit widths
  if total narrowed ≤ limit then narrowed
  else reduce (total narrowed - limit) (narrowed.map fun w => (true, w, w))

def textWidth (cs : List Char) : Nat := widest ((lines cs).map cells)

def padding : Nat := 2

def columnWidth (limit : Nat) (c : Column) (texts : List (List Char)) : Nat :=
  let needed := min limit (widest (texts.map textWidth) + padding)
  match c.maxWidth with
  | some most => min needed (most + padding)
  | none => needed

/-! ## Lines -/

def rule (left line joint right : Char) (widths : List Nat) : List Char :=
  left :: ([joint].intercalate (widths.map fun w => List.replicate w line) ++ [right])

/-- The lines of one row. Short cells are filled up below, or above in the head. -/
def rowLines (bar : Char) (atTop : Bool) (widths : List Nat) (columns : List Column) (cellTexts : List (List Char)) :
    List (List Char) :=
  let blocks := (widths.zip (columns.zip cellTexts)).map fun x =>
    (x.1, wrap x.2.1.alignment .ellipsis (x.1 - padding) x.2.2)
  let height := widest (blocks.map fun b => b.2.length)
  let filled := blocks.map fun b =>
    let blank := List.replicate (height - b.2.length) []
    (b.1, if atTop then b.2 ++ blank else blank ++ b.2)
  (List.range height).map fun i =>
    bar :: ([bar].intercalate (filled.map fun b =>
      ' ' :: (padTo (b.1 - padding) ((b.2[i]?).getD []) ++ [' '])) ++ [bar])

def Table.lines (width : Nat) (t : Table) : Except Unopened (List (List Char)) := do
  let head ← t.columns.mapM fun c => Markup.plain c.name
  let body ← t.rows.mapM fun r => r.mapM Markup.plain
  let title ← Markup.plain t.title
  let edges := t.columns.length + 1
  let widths := fitWidths (width - edges) ((List.range t.columns.length).zip t.columns |>.map fun x =>
    columnWidth (width - edges) x.2 ((head :: body).map fun r => (r[x.1]?).getD []))
  .ok (wrap .center .fold (total widths + edges) title ++
    [rule '┏' '━' '┳' '┓' widths] ++ rowLines '┃' false widths t.columns head ++
    [rule '┡' '━' '╇' '┩' widths] ++ (body.flatMap (rowLines '│' true widths t.columns)) ++
    [rule '└' '─' '┴' '┘' widths])

end BrowserPilot.Console
