/-!
# Cutting text

Cutting a text at a mark: at the first one, or at every one.
-/

namespace BrowserPilot.Text

def cut? (mark : List Char) : List Char → Option (List Char × List Char)
  | [] => none
  | c :: rest =>
    if mark.isPrefixOf (c :: rest) then some ([], (c :: rest).drop mark.length)
    else (cut? mark rest).map fun r => (c :: r.1, r.2)

/-- The parts between marks. The first argument counts the characters of a
mark that are still to be passed over. -/
def splitFrom (mark : List Char) : Nat → List Char → List (List Char)
  | _, [] => [[]]
  | skip + 1, _ :: rest => splitFrom mark skip rest
  | 0, c :: rest =>
    if mark.isPrefixOf (c :: rest) then [] :: splitFrom mark (mark.length - 1) rest
    else
      match splitFrom mark 0 rest with
      | [] => [[c]]
      | part :: parts => (c :: part) :: parts

/-- The parts between marks that are not empty texts; one part more than there
are marks. -/
def splitOn (mark cs : List Char) : List (List Char) := splitFrom mark 0 cs

end BrowserPilot.Text
