/-!
# Lines of a text

A line ends at a line feed, a carriage return, both in that order, or one of
the other characters with a mandatory break. The break belongs to no line, and
a text that ends in a break has no empty line after it.
-/

namespace BrowserPilot.Text

def isBreak (c : Char) : Bool :=
  let n := c.toNat
  (0x0A ≤ n && n ≤ 0x0D) || (0x1C ≤ n && n ≤ 0x1E) || n == 0x85 || n == 0x2028 || n == 0x2029

/-- The lines of a text whose open line has the reversed characters `acc`. -/
def linesFrom : List Char → List Char → List (List Char)
  | acc, [] => if acc.isEmpty then [] else [acc.reverse]
  | acc, '\r' :: '\n' :: rest => acc.reverse :: linesFrom [] rest
  | acc, c :: rest => if isBreak c then acc.reverse :: linesFrom [] rest else linesFrom (c :: acc) rest

def lines (cs : List Char) : List (List Char) := linesFrom [] cs

/-- Every line end as a single line feed: a carriage return, alone or before a
line feed, becomes one. -/
def unifyLineEnds : List Char → List Char
  | [] => []
  | '\r' :: '\n' :: rest => '\n' :: unifyLineEnds rest
  | c :: rest => (if c = '\r' then '\n' else c) :: unifyLineEnds rest

end BrowserPilot.Text
