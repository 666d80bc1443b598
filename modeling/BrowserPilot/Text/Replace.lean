/-!
# Replacing text

Every occurrence of a fixed text replaced by another, from the left, without
looking again at what was put in.
-/

namespace BrowserPilot.Text

/-- Replaces `token`, which is not empty, by `value`. The first argument counts
the characters of an occurrence that are still to be passed over. -/
def replaceFrom (token value : List Char) : Nat → List Char → List Char
  | _, [] => []
  | skip + 1, _ :: rest => replaceFrom token value skip rest
  | 0, c :: rest =>
    if token.isPrefixOf (c :: rest) then value ++ replaceFrom token value (token.length - 1) rest
    else c :: replaceFrom token value 0 rest

def replaceAll (token value text : List Char) : List Char := replaceFrom token value 0 text

/-- Replaces several texts, one after the other; a later one is also replaced
inside what an earlier one has put in. -/
def replaceEach (table : List (String × String)) (text : List Char) : List Char :=
  table.foldl (fun t r => replaceAll r.1.toList r.2.toList t) text

end BrowserPilot.Text
