import ScreenFlow.Entry.Delta
import ScreenFlow.Graph.State

/-!
The summary of a state on a platform: what the graph alone says about the test to be made.
-/

namespace ScreenFlow

/-- How the transitions into a state were found. -/
inductive TransitionMode where
  | explicit
  | discovery
  | graph
  | none
  deriving DecidableEq, Repr

def TransitionMode.name : TransitionMode → String
  | explicit => "explicit"
  | discovery => "discovery"
  | graph => "graph"
  | none => "none"

structure StateSummary where
  className : String
  state : Option String := none
  status : Option String := none
  previousStatus : Option String := none
  platform : String
  entityName : String := "entity"
  requiredFields : List String := []
  setup : List Setup := []
  platformSetup : Option Setup := none
  triggerButton : Option String := none
  afterButton : Option String := none
  previousButton : Option String := none
  navigation : Value := .null
  action : Option Action := none
  transitions : List Transition := []
  primary : Option Transition := none
  transitionMode : TransitionMode := .none
  deltaFields : List DeltaField := []
  hasEntityLogic : Bool := false
  actionName : String := ""
  testFileName : String := ""
  triggeredBy : List Value := []
  references : List Reference := []
  deriving Repr

namespace StateSummary

/-- A state without a transition into it is set up directly. -/
def isInducer (summary : StateSummary) : Bool :=
  summary.primary.isNone

def mode (summary : StateSummary) : String :=
  if summary.isInducer then "inducer" else "transition"

mutual
/-- Data that a JSON text can hold as it is. -/
def isPlain : Value → Bool
  | .null => true
  | .bool _ => true
  | .int _ => true
  | .float _ => true
  | .text _ => true
  | .computed .. => true
  | .list items => arePlain items
  | .tuple items => arePlain items
  | .map entries => entriesPlain entries
  | .callable _ => false
  | .other .. => false

def arePlain : List Value → Bool
  | [] => true
  | item :: items => isPlain item && arePlain items

def entriesPlain : List (Key × Value) → Bool
  | [] => true
  | (key, value) :: rest => key.isName && isPlain value && entriesPlain rest
end

def textOrNull (text : Option String) : Value :=
  (text.map Value.text).getD .null

def texts (items : List String) : Value :=
  .list (items.map Value.text)

def named (fields : List (String × Value)) : Value :=
  .map (fields.map fun field => (.name field.1, field.2))

def transitionRecord (transition : Transition) : Value :=
  named [
    ("event", .text transition.event),
    ("from", .text transition.fromState),
    ("to", .text transition.toState),
    ("platforms", texts transition.platforms),
    ("hasActionDetails", .bool transition.action.isSome)]

def deltaRecord (field : DeltaField) : Value :=
  named [("name", .text field.name), ("value", .text field.value)]

def referenceRecord (reference : Reference) : Value :=
  named [
    ("className", .text reference.className),
    ("path", textOrNull reference.path),
    ("varName", textOrNull reference.varName)]

/-- The summary as data, as the command line prints it. -/
def record (summary : StateSummary) : List (String × Value) := [
  ("className", .text summary.className),
  ("state", textOrNull summary.state),
  ("status", textOrNull summary.status),
  ("previousStatus", textOrNull summary.previousStatus),
  ("platform", .text summary.platform),
  ("actionName", .text summary.actionName),
  ("testFileName", .text summary.testFileName),
  ("mode", .text summary.mode),
  ("transitions", .list (summary.transitions.map transitionRecord)),
  ("deltaFields", .list (summary.deltaFields.map deltaRecord)),
  ("hasEntityLogic", .bool summary.hasEntityLogic),
  ("entityName", .text summary.entityName),
  ("navigation", if isPlain summary.navigation then summary.navigation else .null),
  ("uniqueRefs", .list (summary.references.map referenceRecord))]

end StateSummary

end ScreenFlow
