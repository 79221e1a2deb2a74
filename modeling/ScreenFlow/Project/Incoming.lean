import ScreenFlow.Discovery
import ScreenFlow.Document.Summary
import ScreenFlow.Graph.Incoming
import ScreenFlow.Project.Compilation

/-!
Which transitions lead into a state.  A transition that the caller names is read from the units as
they are now.  Otherwise the discovery index tells them, and the units on disk add what is done on
the way; what the index does not know is looked for in the graph of the unit itself.
-/

namespace ScreenFlow

/-- A transition named by the caller. -/
structure NamedTransition where
  event : String
  fromState : String
  deriving DecidableEq, Repr

structure IncomingTransitions where
  transitions : List Transition := []
  primary : Option Transition := none
  mode : TransitionMode := .none
  deriving Repr

/-- Where transitions are looked up. -/
structure TransitionSources where
  locator : Locator
  index : Option DiscoveryIndex := none

/-- The discovery index of a file; none when there is no file or it cannot be read. -/
def DiscoveryIndex.ofFile (text : Option String) : Except Failure (Option DiscoveryIndex) :=
  match text.bind Json.read? with
  | some data => (DiscoveryIndex.read data).map some
  | none => .ok none

def TransitionSources.ofProject (files : FileTree) (root : Path) (config : Config) :
    Except Failure TransitionSources := do
  return {
    locator := .ofProject files root config
    index := ← DiscoveryIndex.ofFile (files.text? (root.child config.discoveryPath)) }

namespace Incoming

/-- What a unit declares for an event in a state. -/
def declared? (graph : StateGraph) (state event : String) : Option Edge :=
  (graph.recordIn state).bind fun record => record.on.lookup event

/-- The first of the units that declares the edge, and what it declares; `load` brings a unit. -/
def firstDeclaring (load : Path → Work StateUnit) (state event : String) :
    List Path → Work (Option (Path × Edge))
  | [] => return none
  | path :: rest => do
      match (← (load path).attempt).bind fun found => declared? found.graph state event with
      | some edge => return some (path, edge)
      | none => firstDeclaring load state event rest

/-- The units in which a named transition may be declared: the compiled one if it knows the state,
and the one that is found for the state. -/
def candidates (task : Assignment) (sources : TransitionSources) (state : String) :
    Work (List Path) := do
  let own := task.unit.path
  let known := (task.unit.graph.recordIn state).isSome
  let located ← sources.locator.locate state
  let files := (← get).files
  let other := located.filter fun path => files.resolve path != files.resolve own
  return (if known then [own] else []) ++ other.toList

/-- Notes where a transition that was found differs from what was asked for. -/
def noteDifferences (named : NamedTransition) (target platform : String)
    (found : Transition) : Compilation Unit := do
  if !StateName.denotes found.toState target then
    Compilation.degrade "transition" (Transition.departure named.fromState named.event)
      ("declared target " ++ found.toState ++ " kept") [target]
  if !found.appliesTo platform then
    Compilation.degrade "transition"
      (Transition.words named.fromState named.event found.toState)
      ("used on " ++ platform ++ " although declared for other platforms") found.platforms

/-- The named transition as the units declare it now, else with its two ends alone. -/
def ofNamed (task : Assignment) (sources : TransitionSources) (named : NamedTransition)
    (target : String) : Compilation Transition := do
  let paths ← Compilation.ofWork (candidates task sources named.fromState)
  match ← Compilation.ofWork (firstDeclaring Session.reload named.fromState named.event paths) with
  | some (path, edge) => do
      let found := Transition.ofEdge named.event named.fromState edge (some path.toText)
      noteDifferences named target task.platform found
      return found
  | none => do
      Compilation.degrade "transition" (Transition.words named.fromState named.event target)
        "bare transition without action details" (paths.map Path.toText)
      return { event := named.event, fromState := named.fromState, toState := target }

/-- The file an index entry names; only a text names one. -/
def sourceOf (root : Path) (entry : IndexEntry) : Except Failure (List Path) :=
  if !entry.sourceFile.truthy then .ok []
  else
    match entry.sourceFile.string? with
    | some text => .ok [root.child text]
    | none => .error .badType

/-- An index entry with what a unit on disk declares for it. -/
def ofEntry (task : Assignment) (sources : TransitionSources) (entry : IndexEntry) :
    Compilation Transition := do
  let source ← Compilation.ofExcept (sourceOf task.projectRoot entry)
  let located ← Compilation.ofWork (sources.locator.locate entry.fromState)
  let paths := source ++ located.toList
  match ← Compilation.ofWork (firstDeclaring Session.unit entry.fromState entry.event paths) with
  | some (path, edge) =>
      return {
        event := entry.event, fromState := entry.fromState, toState := entry.toState
        platforms := if edge.platforms.isEmpty then entry.platforms else edge.platforms
        action := edge.action
        sourcePath := some path.toText }
  | none => do
      Compilation.degrade "transition"
        (Transition.words entry.fromState entry.event entry.toState)
        "index entry without action details" (paths.map Path.toText)
      Compilation.ofExcept entry.toTransition

/-- The transition to test among several: one from the declared previous state, else the first. -/
def choosePrimary (target : String) (transitions : List Transition) (previous : Option String) :
    Compilation (Option Transition) := do
  let declared := (previous.filter (· != "")).bind fun state =>
    transitions.find? fun transition => StateName.denotes transition.fromState state
  match declared, transitions with
  | some transition, _ => return some transition
  | none, [] => return none
  | none, [only] => return some only
  | none, first :: others => do
      Compilation.degrade "transition" ("primary transition into " ++ target)
        (Transition.departure first.fromState first.event)
        (others.map fun other => Transition.departure other.fromState other.event)
      return some first

/-- What the index tells, else the most likely transition of the graph itself. -/
def found (task : Assignment) (sources : TransitionSources) (target : String) :
    Compilation (List Transition × TransitionMode) := do
  let entries := (sources.index.getD []).incoming target (some task.platform)
  match ← entries.mapM (ofEntry task sources) with
  | [] =>
      let own := task.unit.graph.incoming target (some task.unit.path.toText) (some task.platform)
      match Transition.pickPrevious own with
      | some transition => return ([transition], .graph)
      | none => return ([], .none)
  | transitions => return (transitions, .discovery)

/-- The transitions that lead into the target. -/
def resolve (task : Assignment) (sources : TransitionSources) (target : String)
    (named : Option NamedTransition) (previous : Option String) :
    Compilation IncomingTransitions := do
  match named with
  | some named => do
      let transition ← ofNamed task sources named target
      return { transitions := [transition], primary := some transition, mode := .explicit }
  | none => do
      let (transitions, mode) ← found task sources target
      let transitions := Transition.dedupe transitions
      return { transitions, primary := ← choosePrimary target transitions previous, mode }

end Incoming

end ScreenFlow
