import ScreenFlow.Json.Reader
import ScreenFlow.Text.Case

/-! The state registry: which unit a status is defined in, whatever the case of its letters. -/

namespace ScreenFlow

abbrev Registry := List (String × String)

namespace Registry

/-- Adds a mapping; the last one of a status wins, at the place of the first. -/
def put : Registry → String → String → Registry
  | [], status, unit => [(status, unit)]
  | (known, old) :: rest, status, unit =>
      if known = status then (known, unit) :: rest else (known, old) :: put rest status unit

def ofEntries (entries : Entries) : Registry :=
  entries.foldl
    (fun registry entry =>
      match entry.2.string? with
      | some unit => registry.put (lowerText entry.1.text) unit
      | none => registry)
    []

/-- The mappings may stand in the file directly or under a name of their own. -/
def ofData (data : Value) : Registry :=
  match data with
  | .map entries =>
      match Entries.get? entries "mappings" with
      | some (.map mappings) => ofEntries mappings
      | _ => ofEntries entries
  | _ => []

/-- A file that is no JSON text maps nothing. -/
def ofFile (text : Option String) : Registry :=
  match text.bind Json.read? with
  | some data => ofData data
  | none => []

def unitOf? (registry : Registry) (status : String) : Option String :=
  registry.lookup (lowerText status)

end Registry

end ScreenFlow
