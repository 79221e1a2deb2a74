import ScreenFlow.Document.Summary
import ScreenFlow.Naming.Words
import ScreenFlow.Project.Incoming

/-!
The summary of a state, taken from the unit that is compiled and from the transitions that lead into
the state.
-/

namespace ScreenFlow

namespace StateGraph

/-- The record that is compiled: that of the named state, or of the root. -/
def selected (graph : StateGraph) (unitName : String) :
    Option String → Except ValidationFailure StateRecord
  | none => .ok graph.root
  | some name =>
      if graph.isMultiState then
        match graph.state? name with
        | some record => .ok record
        | none => .error (.unknownState name unitName (graph.states.map (·.1)))
      else if graph.rootStatus = some name then .ok graph.root
      else .error (.unknownStatus name unitName)

/-- Whether the name of a state means one of several. -/
def isSubState (graph : StateGraph) (state : Option String) : Bool :=
  state.isSome && graph.isMultiState

/-- The status of the selected record; a sub-state that declares none has its name. -/
def selectedStatus (graph : StateGraph) (record : StateRecord) (state : Option String) :
    Option String :=
  match record.info.status.filter (· != "") with
  | some status => some status
  | none => if graph.isSubState state then state else none

end StateGraph

namespace StateMeta

/-- The first text that is there and not empty. -/
def firstFilled (first second : Option String) : Option String :=
  match first.filter (· != "") with
  | some text => some text
  | none => second.filter (· != "")

/-- The name that overrides the one of the action: that of the state, else of its first set-up. -/
def actionOverride (info : StateMeta) : Option String :=
  firstFilled info.actionName (info.setup.head?.bind (·.actionName))

/-- The file the state names for its test, without directories. -/
def declaredFile (info : StateMeta) : Option String :=
  ((firstFilled info.testFile (info.setup.head?.bind (·.testFile))).map fun path =>
    (Path.parse (forwardSlashes path)).name).filter (· != "")

/-- The set-up for a platform. -/
def setupFor (info : StateMeta) (platform : String) : Option Setup :=
  info.setup.find? fun setup => setup.platform == some platform

end StateMeta

namespace StateSummary

/-- The status before: the one declared, else where the transition starts, else the state that
leads into a sub-state. -/
def statusBefore (graph : StateGraph) (info : StateMeta) (state : Option String)
    (primary : Option Transition) (platform : String) : Option String :=
  match info.declaredPrevious with
  | some status => some status
  | none =>
      match primary with
      | some transition => some transition.fromState
      | none =>
          if graph.isMultiState then state.bind fun name =>
            graph.previousState name (some platform)
          else none

/-- The summary of a record whose incoming transitions are known. -/
def ofRecord (task : Assignment) (state : Option String) (record : StateRecord)
    (incoming : IncomingTransitions) : StateSummary :=
  let graph := task.unit.graph
  let info := record.info
  let status := graph.selectedStatus record state
  let primary := incoming.primary
  let entity := Entry.entityName info.entity record.entry task.unit.className
  let name := ScreenFlow.actionName (status.getD "") (primary.map (·.fromState)) info.actionOverride
  { className := task.unit.className
    state
    status
    previousStatus := statusBefore graph info state primary task.platform
    platform := task.platform
    entityName := entity
    requiredFields := info.requiredFields
    setup := info.setup
    platformSetup := info.setupFor task.platform
    triggerButton := info.triggerButton
    afterButton := info.afterButton
    previousButton := info.previousButton
    navigation := info.navigation
    action := info.action
    transitions := incoming.transitions
    primary
    transitionMode := incoming.mode
    deltaFields := Entry.deltaFields record.entry (status.getD "") entity
    hasEntityLogic := Entry.hasEntityLogic record.entry
    actionName := name
    testFileName := info.declaredFile.getD
      (specFileName name task.spec.suffix (primary.map (·.event)) specExtension)
    triggeredBy := task.unit.triggeredBy }

/-- The summary of the selected record of the compiled unit. -/
def extract (task : Assignment) (sources : TransitionSources) (state : Option String)
    (record : StateRecord) (named : Option NamedTransition) : Compilation StateSummary := do
  let target := (task.unit.graph.selectedStatus record state).getD (state.getD "")
  let incoming ← Incoming.resolve task sources target named record.info.declaredPrevious
  return ofRecord task state record incoming

end StateSummary

end ScreenFlow
