import ScreenFlow.Failure
import ScreenFlow.Graph.State
import ScreenFlow.Json.Reader
import ScreenFlow.Naming.Words
import ScreenFlow.Project.Path
import ScreenFlow.UnitText.Run

/-!
State-definition units.  A unit is given as a JSON object or as a text that is run; when it cannot
be run its text is read instead, and what it computes is left open.
-/

namespace ScreenFlow

/-- A unit as it was loaded from a file. -/
structure StateUnit where
  className : String
  path : Path
  graph : StateGraph
  mirrorsOn : Option (List (String × Value)) := none
  triggeredBy : List Value := []
  strategy : Strategy
  projectRoot : Path
  degradations : List Degradation := []
  deriving Repr

namespace StateUnit

def title : String := "ImplicationUnit"

/-- What a file says about a unit, not yet read by the schema. -/
structure Definition where
  strategy : Strategy
  className : Value
  graph : Value
  screens : Value := .null
  triggers : Value := .null

structure Parts where
  className : String
  mirrorsOn : Option (List (String × Value))
  triggeredBy : List Value

def readParts (definition : Definition) : Reading Parts :=
  Parts.mk
    <$> (Schema.string definition.className).inside (.key "class_name")
    <*> (StateMeta.mapOrNone Schema.namedValues definition.screens).inside (.key "mirrors_on")
    <*> .value definition.triggers.listOrEmpty

def checked (path : Path) (strategy : Strategy) (title : String) : Reading α →
    Except LoadFailure α
  | .value a => .ok a
  | .issues found => .error (.invalid path.toText strategy title found)
  | .overflow => .error (.invalid path.toText strategy title [])

/-- The unit of a definition, without what is known about its project. -/
def ofDefinition (path : Path) (definition : Definition) : Except LoadFailure StateUnit :=
  if !definition.graph.isMap then .error (.notMap path.toText definition.strategy)
  else do
    let graph ← checked path definition.strategy StateGraph.title
      (StateGraph.read definition.graph)
    let parts ← checked path definition.strategy title (readParts definition)
    return {
      className := parts.className, path, graph
      mirrorsOn := parts.mirrorsOn
      triggeredBy := parts.triggeredBy
      strategy := definition.strategy
      projectRoot := path.parent }

/-- The name of a unit that does not name itself. -/
def nameOf (path : Path) : String :=
  pascalCase path.stem

/-- The value of the first of the keys that is there. -/
def firstOf (entries : Entries) (keys : List String) : Value :=
  (keys.findSome? entries.get?).getD .null

/-- Keys of which any makes a JSON object a state graph itself. -/
def graphKeys : List String := ["meta", "on", "states"]

def jsonGraph (entries : Entries) : Value :=
  match firstOf entries UnitText.Attribute.graph with
  | .null => if graphKeys.any entries.hasKey then .map entries else .null
  | graph => graph

def jsonName (path : Path) (entries : Entries) : Value :=
  let given := Value.orNull (entries.get? "className")
  if given.truthy then given else .text (nameOf path)

def ofJson (path : Path) (text : String) : Except LoadFailure StateUnit :=
  match Json.read? text with
  | none => .error (.unreadable path.toText)
  | some (.map entries) =>
      match jsonGraph entries with
      | .null => .error (.noGraph path.toText [.json])
      | graph => ofDefinition path {
          strategy := .json
          className := jsonName path entries
          graph
          screens := firstOf entries UnitText.Attribute.screens
          triggers := firstOf entries UnitText.Attribute.triggers }
  | some _ => .error (.notObject path.toText)

/-- Texts of this ending can be run. -/
def runnableEnding : String := ".py"

/-- A text that is run may start with a mark of its byte order. -/
def withoutByteOrderMark (text : List Char) : List Char :=
  match text with
  | c :: rest => if c.toNat = 0xFEFF then rest else text
  | [] => []

/-- What running a text of the given path leaves, if it can be run. -/
def run? (path : Path) (text : String) : Option UnitText.Machine :=
  if endsWith path.name runnableEnding && !text.toList.contains (Char.ofNat 0) then
    UnitText.run? (withoutByteOrderMark text.toList)
  else none

def ofRun (path : Path) (machine : UnitText.Machine) : Except LoadFailure StateUnit :=
  match machine.attributes? with
  | none => .error (.noAttribute path.toText)
  | some found => ofDefinition path {
      strategy := .dynamic
      className := .text (found.className.getD (nameOf path))
      graph := found.graph
      screens := found.screens
      triggers := found.triggers }

/-- The values of the attributes as a map. -/
def attributeEntries (outline : UnitText.Outline) : Entries :=
  outline.values.map fun entry => (.name entry.1, entry.2)

def ofOutline (path : Path) (outline : UnitText.Outline) : Except LoadFailure StateUnit :=
  let entries := attributeEntries outline
  if !UnitText.Attribute.graph.any entries.hasKey then
    .error (.noGraph path.toText [.dynamic, .sourceTree])
  else
    ofDefinition path {
      strategy := .sourceTree
      className := .text (outline.className.getD (nameOf path))
      graph := firstOf entries UnitText.Attribute.graph
      screens := firstOf entries UnitText.Attribute.screens
      triggers := firstOf entries UnitText.Attribute.triggers }

/-- The note that a text was read and not run. -/
def readNote (path : Path) : Degradation :=
  ⟨"loader", path.toText, "syntax-tree reconstruction", []⟩

def ofText (path : Path) (text : String) : Except LoadFailure StateUnit :=
  match run? path text with
  | some machine => ofRun path machine
  | none =>
      match UnitText.outline text with
      | .error cause => .error (.unparsable path.toText cause)
      | .ok outline => do
          let found ← ofOutline path outline
          return { found with degradations := [readNote path] }

/-- The unit that a file of the given path and text holds. -/
def ofFile (path : Path) (text : String) : Except LoadFailure StateUnit :=
  if path.suffix = ".json" then ofJson path text else ofText path text

end StateUnit

end ScreenFlow
