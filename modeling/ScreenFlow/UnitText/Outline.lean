import ScreenFlow.Failure
import ScreenFlow.UnitText.Rebuild
import ScreenFlow.UnitText.Statement

/-!
What the text of a unit defines: the names of the text itself, and the attributes of the unit, which
are those of the first class that has a state graph.  A class whose name says that it is a unit goes
before the others; without any such class the attributes are names of the text itself.
-/

namespace ScreenFlow.UnitText

namespace Attribute

/-- Each attribute has two spellings, the first of which is preferred. -/
def graph : List String := ["xstate_config", "xstateConfig"]

def screens : List String := ["mirrors_on", "mirrorsOn"]

def triggers : List String := ["triggered_by", "triggeredBy"]

def all : List String := graph ++ screens ++ triggers

/-- How the names of classes that define a unit end. -/
def unitEnding : String := "Implications"

def isUnitName (name : String) : Bool :=
  endsWith name unitEnding

/-- The first that is preferred, else the first. -/
def preferred (isPreferred : α → Bool) (found : List α) : Option α :=
  (found.find? isPreferred).or found.head?

end Attribute

structure Outline where
  className : Option String := none
  attributes : Symbols := []
  symbols : Symbols := []
  deriving Inhabited

namespace Outline

/-- The names a statement defines, with what they stand for. -/
def definitions (text : List Char) (statement : Statement) : Symbols :=
  match statement with
  | .function name _ span .. => [(name, .computed .function (span.slice text))]
  | statement =>
      match statement.assigned with
      | (names, some value) => names.map fun name => (name, Node.ofExpr text value)
      | (_, none) => []

/-- The attributes of a unit that a statement in a class defines. -/
def attributesOf (text : List Char) (statement : Statement) : Symbols :=
  match statement with
  | .function .. => []
  | statement =>
      (definitions text statement).filter fun definition => Attribute.all.contains definition.1

def putAll (symbols : Symbols) (definitions : Symbols) : Symbols :=
  definitions.foldl (fun symbols definition => symbols.put definition.1 definition.2) symbols

def hasGraph (symbols : Symbols) : Bool :=
  symbols.any fun symbol => Attribute.graph.contains symbol.1

/-- A class with a state graph, and its attributes. -/
def candidate? (text : List Char) : Statement → Option (String × Symbols)
  | .unit name _ _ body =>
      let attributes := (body.map (attributesOf text)).foldl putAll []
      if hasGraph attributes then some (name, attributes) else none
  | _ => none

def ofStatements (text : List Char) (statements : List Statement) : Outline :=
  let symbols := (statements.map (definitions text)).foldl putAll []
  match Attribute.preferred (fun candidate => Attribute.isUnitName candidate.1)
      (statements.filterMap (candidate? text)) with
  | some (name, attributes) => { className := some name, attributes, symbols }
  | none => {
      attributes := symbols.filter fun symbol => Attribute.all.contains symbol.1
      symbols }

/-- The outline of a unit text, if it is one. -/
def ofText? (text : List Char) : Option Outline :=
  (statements? text).map (ofStatements text)

/-- The attributes with their values. -/
def values (outline : Outline) : List (String × Value) :=
  outline.attributes.map fun entry => (entry.1, entry.2.rebuild outline.symbols)

end Outline

/-- Reads a text that holds no null character. -/
def read (reader : List Char → Option α) (text : String) : Except Cause α :=
  if text.toList.contains (Char.ofNat 0) then .error .forbiddenCharacter
  else
    match reader text.toList with
    | some found => .ok found
    | none => .error .sourceText

def expression (text : String) : Except Cause Expr :=
  read Expr.ofText? text

def outline (text : String) : Except Cause Outline :=
  read Outline.ofText? text

end ScreenFlow.UnitText
