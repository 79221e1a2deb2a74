import ScreenFlow.Graph.Transition

/-!
State records and state graphs.  A graph has one state, its root, or a root with named sub-states.
Computed parts of a graph never make it unreadable where the schema can do without them: lists take
a placeholder as empty, strings as missing, and an edge to a placeholder is dropped.
-/

namespace ScreenFlow

/-- What a state says about its set-up on one platform. -/
structure Setup where
  platform : Option String := none
  testFile : Option String := none
  actionName : Option String := none
  deriving DecidableEq, Repr

def Setup.read : Value → Reading Setup :=
  Schema.record fun entries =>
    Setup.mk
      <$> Schema.optional entries (.same "platform") none Schema.stringOrNone
      <*> Schema.optional entries ⟨"testFile", "test_file"⟩ none Schema.stringOrNone
      <*> Schema.optional entries ⟨"actionName", "action_name"⟩ none Schema.stringOrNone
      <* Schema.onlyNames entries

structure StateMeta where
  status : Option String := none
  platform : Option String := none
  entity : Option String := none
  requiredFields : List String := []
  setup : List Setup := []
  requires : List (String × Value) := []
  previousStatus : Option String := none
  actionName : Option String := none
  testFile : Option String := none
  triggerButton : Option String := none
  afterButton : Option String := none
  previousButton : Option String := none
  action : Option Action := none
  navigation : Value := .null
  mirrorsOn : Option (List (String × Value)) := none
  deriving Repr

namespace StateMeta

/-- The map, or an empty one in place of anything else. -/
def mapOrEmpty (value : Value) : Value :=
  if value.isMap then value else .map []

/-- A map read as `read` says; nothing in place of anything else. -/
def mapOrNone (read : Value → Reading α) (value : Value) : Reading (Option α) :=
  if value.isMap then (read value).map some else .value none

def read (value : Value) : Reading StateMeta :=
  Schema.record
    (fun entries =>
      StateMeta.mk
        <$> Schema.optional entries (.same "status") none Schema.stringOrNone
        <*> Schema.optional entries (.same "platform") none Schema.stringOrNone
        <*> Schema.optional entries (.same "entity") none Schema.stringOrNone
        <*> Schema.optional entries ⟨"requiredFields", "required_fields"⟩ []
          (Schema.listOrEmpty Schema.string)
        <*> Schema.optional entries (.same "setup") [] (Schema.recordsOnly Setup.read)
        <*> Schema.optional entries (.same "requires") []
          (fun value => Schema.namedValues (mapOrEmpty value))
        <*> Schema.optional entries ⟨"previousStatus", "previous_status"⟩ none
          Schema.stringOrNone
        <*> Schema.optional entries ⟨"actionName", "action_name"⟩ none Schema.stringOrNone
        <*> Schema.optional entries ⟨"testFile", "test_file"⟩ none Schema.stringOrNone
        <*> Schema.optional entries ⟨"triggerButton", "trigger_button"⟩ none Schema.stringOrNone
        <*> Schema.optional entries ⟨"afterButton", "after_button"⟩ none Schema.stringOrNone
        <*> Schema.optional entries ⟨"previousButton", "previous_button"⟩ none
          Schema.stringOrNone
        <*> Schema.optional entries ⟨"actionDetails", "action_details"⟩ none
          (mapOrNone Action.read)
        <*> Schema.optional entries (.same "navigation") .null Schema.any
        <*> Schema.optional entries ⟨"mirrorsOn", "mirrors_on"⟩ none
          (mapOrNone Schema.namedValues)
        <* Schema.onlyNames entries)
    (mapOrEmpty value)

/-- The previous status a state declares, itself or among its requirements. -/
def declaredPrevious (info : StateMeta) : Option String :=
  match info.previousStatus.filter (· != "") with
  | some status => some status
  | none =>
      match info.requires.lookup "previousStatus" with
      | some value => if value.isPlaceholder then none else value.string?
      | none => none

end StateMeta

structure StateRecord where
  info : StateMeta := {}
  entry : Value := .null
  on : List (String × Edge) := []
  deriving Repr

namespace StateRecord

/-- An edge whose target is computed, or that is given by nothing at all, cannot be followed. -/
def isFollowable (edge : Value) : Bool :=
  !edge.isPlaceholder &&
    match edge with
    | .null => false
    | .text "" => false
    | .list [] => false
    | .map entries => !(Value.orNull (Entries.get? entries "target")).isPlaceholder
    | _ => true

def followable (value : Value) : Value :=
  match value with
  | .map entries => .map (entries.filter fun entry => isFollowable entry.2)
  | _ => .map []

/-- The three parts every state has, the root of a graph too. -/
def readParts (entries : Entries) : Reading StateRecord :=
  StateRecord.mk
    <$> Schema.optional entries (.same "meta") {} StateMeta.read
    <*> Schema.optional entries (.same "entry") .null Schema.any
    <*> Schema.optional entries (.same "on") []
      (fun value => Schema.mapOf Edge.read (followable value))

def read : Value → Reading StateRecord :=
  Schema.record fun entries => readParts entries <* Schema.onlyNames entries

def outgoing (record : StateRecord) (fromState : String) (sourcePath : Option String) :
    List Transition :=
  record.on.map fun edge => Transition.ofEdge edge.1 fromState edge.2 sourcePath

end StateRecord

structure StateGraph where
  root : StateRecord := {}
  id : Option String := none
  initial : Option String := none
  states : List (String × StateRecord) := []
  context : Value := .null
  deriving Repr

namespace StateGraph

def recordsOnly (value : Value) : Value :=
  match value with
  | .map entries => .map (entries.filter fun entry => entry.2.isMap)
  | _ => .map []

def read : Value → Reading StateGraph :=
  Schema.record fun entries =>
    StateGraph.mk
      <$> StateRecord.readParts entries
      <*> Schema.optional entries (.same "id") none Schema.optionalString
      <*> Schema.optional entries (.same "initial") none Schema.optionalString
      <*> Schema.optional entries (.same "states") []
        (fun value => Schema.mapOf StateRecord.read (recordsOnly value))
      <*> Schema.optional entries (.same "context") .null Schema.any
      <* Schema.onlyNames entries

def title : String := "StateGraph"

def isMultiState (graph : StateGraph) : Bool :=
  (graph.initial.filter (· != "")).isSome && !graph.states.isEmpty

def state? (graph : StateGraph) (name : String) : Option StateRecord :=
  graph.states.lookup name

def rootStatus (graph : StateGraph) : Option String :=
  graph.root.info.status

/-- The status of a sub-state, which is its name unless it declares one; of the root without a
name. -/
def statusOf (graph : StateGraph) (name : Option String) : Option String :=
  match name with
  | none => graph.rootStatus
  | some name =>
      (graph.state? name).map fun record =>
        (record.info.status.filter (· != "")).getD name

end StateGraph

end ScreenFlow
