import ScreenFlow.Project.StateUnit
import ScreenFlow.Proofs.Data.Definition
import ScreenFlow.Proofs.Data.Json

/-!
A unit that is spelled as data is the same unit however it is loaded: from a JSON text, by running the
text of a class, or by reading that text.
-/

namespace ScreenFlow

open UnitText

namespace StateUnit

/-- What a unit says, apart from its name, its place and how it was loaded. -/
structure Contents where
  graph : StateGraph
  mirrorsOn : Option (List (String × Value))
  triggeredBy : List Value

def contents (unit : StateUnit) : Contents where
  graph := unit.graph
  mirrorsOn := unit.mirrorsOn
  triggeredBy := unit.triggeredBy

/-- The contents of a unit of the given graph, screens and triggers, unless the schema refuses
them. -/
def Contents.read? (graph screens triggers : Value) : Option Contents :=
  if graph.isMap then
    match StateGraph.read graph, StateMeta.mapOrNone Schema.namedValues screens with
    | .value graph, .value mirrorsOn => some ⟨graph, mirrorsOn, triggers.listOrEmpty⟩
    | _, _ => none
  else none

/-- How a unit was loaded and what it says, if it was. -/
def outcome (loaded : Except LoadFailure StateUnit) : Option (Strategy × Contents) :=
  loaded.toOption.map fun unit => (unit.strategy, unit.contents)

def jsonText (fields : List DataField) : String :=
  String.ofList ((Data.map fields).spelled .json)

/-- The entries that fields of distinct names make. -/
def entriesOf (fields : List DataField) : Entries :=
  fields.map fun field => (.name field.1, field.2.value)

end StateUnit

namespace UnitData

open StateUnit

end UnitData

end ScreenFlow
