import BrowserPilot.Console.Markup
import BrowserPilot.Console.Wrap

/-!
# Panels

A panel is a text in a frame as wide as the console, with a title in the upper
side of the frame.
-/

namespace BrowserPilot.Console

def titleLine (width : Nat) (title : List Char) : List Char :=
  let text := clip .fold (width - 4) (' ' :: (title ++ [' ']))
  let excess := width - 4 - Text.cells text
  ['╭', '─'] ++ List.replicate (excess / 2) '─' ++ text ++ List.replicate (excess - excess / 2) '─' ++ ['─', '╮']

def panel (width : Nat) (title text : String) : Except Unopened (List (List Char)) := do
  let heading ← Markup.plain title
  let body ← Markup.plain text
  let inside := wrap .natural .fold (width - 4) body
  .ok ([titleLine width heading] ++
    inside.map (fun l => ['│', ' '] ++ padTo (width - 4) l ++ [' ', '│']) ++
    [['╰'] ++ List.replicate (width - 2) '─' ++ ['╯']])

end BrowserPilot.Console
