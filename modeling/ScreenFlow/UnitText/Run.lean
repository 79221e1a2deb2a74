import ScreenFlow.UnitText.Evaluate

/-!
Running the text of a unit.  Names get values one statement after the other.  Whatever a unit is not
made of, and whatever goes wrong, stops the run without a result.
-/

namespace ScreenFlow.UnitText

namespace Run

/-- Evaluates an annotation, of which only names and their combinations are known. -/
def annotate : Nat → Expr → Run Unit
  | 0, _ => failure
  | fuel + 1, expr =>
      match expr.form with
      | .item owner index => do
          annotate fuel owner
          annotate fuel index
      | .binary .bitOr left right => do
          annotate fuel left
          annotate fuel right
      | .tuple items => items.forM (annotate fuel)
      | .list items => items.forM (annotate fuel)
      | .scalar _ => return ()
      | .ellipsis => return ()
      | .name name => do
          let _ ← lookup name
      | _ => failure

/-- Puts a value under a key of the map, or at a place of the list, that a name stands for. -/
def putItem (owner : Expr) (index item : Value) : Run Unit := do
  match owner.form with
  | .name name => do
      match ← lookup name with
      | .value (.map entries) => do
          assignName name (.value (.map (putKey entries (← keyOf index) item)))
      | .value (.list items) => do
          let place ← fromOption (index.int?.bind (Operation.position? items.length))
          assignName name (.value (.list (items.set place item)))
      | _ => failure
  | _ => failure

def putMember (owner : Expr) (name : String) (datum : Datum) : Run Unit := do
  match owner.name? with
  | some className => do
      match ← lookup className with
      | .unit place =>
          modify fun machine => { machine with
            units := machine.units.modify place fun found =>
              { found with members := Names.put found.members name datum } }
      | _ => failure
  | none => failure

def assignTo (fuel : Nat) (datum : Datum) (target : Expr) : Run Unit := do
  match target.form with
  | .item owner index => do putItem owner (← evaluateValue fuel index) (← value datum)
  | .attribute owner name => putMember owner name datum
  | _ => bindTarget assignName target datum

/-- A class that a class inherits from; a type that needs no definition has no members. -/
def baseOf (fuel : Nat) : CallOperand → Run (Option Nat)
  | .positional expr => do
      match ← evaluate fuel expr with
      | .unit place => return some place
      | .value (.callable name) =>
          if builtInTypes.contains name && name != "bool" then return none else failure
      | _ => failure
  | _ => failure

/-- Decorators that leave a function what it is. -/
def checkDecorators (decorators : List Expr) : Run Unit :=
  decorators.forM fun decorator =>
    match decorator.name? with
    | some name =>
        if ["staticmethod", "classmethod", "property"].contains name then do
          let _ ← lookup name
        else failure
    | none => failure

mutual
def execute : Nat → Statement → Run Unit
  | 0, _ => failure
  | fuel + 1, statement =>
      match statement with
      | .assign targets expr => do
          let datum ← evaluate fuel expr
          targets.forM (assignTo fuel datum)
      | .annotated target annotation given => do
          if let some expr := given then
            assignTo fuel (← evaluate fuel expr) target
          annotate fuel annotation
      | .augmented target op expr => do
          match target.name? with
          | some name => do
              let before ← value (← lookup name)
              let change ← evaluateValue fuel expr
              assignName name (.value (← fromOption (Operation.binary op before change)))
          | none => failure
      | .evaluate expr => do
          let _ ← evaluate fuel expr
      | .function name whole _ decorators parameters annotations body => do
          checkDecorators decorators
          let defaults ← evaluateDefaults fuel parameters
          annotations.forM (annotate fuel)
          let machine ← get
          let recipe := if decorators.isEmpty then Recipe.ofBody? body else none
          assignName name (functionOf (Listing.named machine.text machine.lexemes whole)
            parameters defaults recipe)
      | .unit name decorators operands body => do
          if !decorators.isEmpty then failure
          defineUnit fuel name operands body
      | .branch condition body orElse => do
          if (← evaluateValue fuel condition).truthy then executeAll fuel body
          else executeAll fuel orElse
      | .pass => return ()
      | .result _ => failure
      | .other => failure

def executeAll : Nat → List Statement → Run Unit
  | 0, _ => failure
  | _ + 1, [] => return ()
  | fuel + 1, statement :: rest => do
      execute fuel statement
      executeAll fuel rest

def defineUnit : Nat → String → List CallOperand → List Statement → Run Unit
  | 0, _, _, _ => failure
  | fuel + 1, name, operands, body => do
      let bases := (← operands.mapM (baseOf fuel)).filterMap id
      if bases.eraseDups.length != bases.length then failure
      let outer := (← get).members
      modify fun machine => { machine with members := some [] }
      executeAll fuel body
      let machine ← get
      let lineages := bases.filterMap fun place => (machine.units[place]?).map (·.lineage)
      let inherited ← fromOption
        (merge (machine.units.length * (bases.length + 1) + 2) (lineages ++ [bases]))
      let place := machine.units.length
      let unit : UnitClass := {
        name, members := machine.members.getD [], lineage := place :: inherited }
      set ({ machine with members := outer, units := machine.units ++ [unit] } : Machine)
      assignName name (.unit place)
end

end Run

/-- What a unit defines when its text has been run. -/
structure Attributes where
  className : Option String := none
  graph : Value
  screens : Value := .null
  triggers : Value := .null

namespace Machine

/-- The value of a datum seen from outside of the run. -/
def valueOf (machine : Machine) (datum : Datum) : Value :=
  match (Run.value datum).run machine with
  | some (value, _) => value
  | none => .null

/-- The first of the names that is there, even when it stands for nothing. -/
def first (machine : Machine) (lookup : String → Option Datum) (names : List String) : Value :=
  ((names.findSome? lookup).map machine.valueOf).getD .null

def attributesOf (machine : Machine) (className : Option String)
    (lookup : String → Option Datum) : Option Attributes :=
  match machine.first lookup Attribute.graph with
  | .null => none
  | graph => some {
      className, graph
      screens := machine.first lookup Attribute.screens
      triggers := machine.first lookup Attribute.triggers }

/-- The attributes of a class with a state graph, its own or inherited. -/
def candidate? (machine : Machine) : Datum → Option Attributes
  | .unit place =>
      machine.attributesOf ((machine.units[place]?).map (·.name)) (Run.member? machine.units place)
  | _ => none

def isUnit (found : Attributes) : Bool :=
  (found.className.map Attribute.isUnitName).getD false

/-- The attributes of the first class with a state graph, of one whose name says that it is a unit
before all others; else those that are names of the text itself. -/
def attributes? (machine : Machine) : Option Attributes :=
  (Attribute.preferred isUnit
      (machine.globals.filterMap fun entry => machine.candidate? entry.2)).or
    (machine.attributesOf none fun name => machine.globals.lookup name)

end Machine

/-- The classes and names that are there when a unit text has been run; none when it cannot be. -/
def run? (text : List Char) : Option Machine := do
  let lexemes ← lexemes? text
  let statements ← statements? text
  let start : Machine := { text, lexemes }
  let ((), machine) ← (Run.executeAll (Reader.fuelFor text) statements).run start
  return machine

end ScreenFlow.UnitText
