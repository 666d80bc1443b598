import BrowserPilot.Schema.Reader

/-!
# Extracted elements

One element that an extract step found.
-/

namespace BrowserPilot

open Schema

structure Extract where
  text : String := ""
  markup : String := ""
  attributes : List (String × String) := []
  deriving DecidableEq, Repr

namespace Extract

def toJson (e : Extract) : Json :=
  .obj [("text", .str e.text), ("raw_markup", .str e.markup),
    ("attributes", .obj (e.attributes.map fun a => (a.1, .str a.2)))]

def read : Reader Extract :=
  record "ExtractedRecord" fun m =>
    ((Checked.ap ((optional "text" "" Schema.text m).map Extract.mk) (optional "raw_markup" "" Schema.text m)).ap
      (optional "attributes" [] (table Schema.text) m))

end Extract

end BrowserPilot
