import ScreenFlow.Graph.State
import ScreenFlow.Naming.StateName

/-!
Which declared edges lead into a state, and which state comes before it.
-/

namespace ScreenFlow

namespace StateGraph

/-- Every edge declared in the graph: those of the sub-states in order, then those of the root. -/
def allTransitions (graph : StateGraph) (sourcePath : Option String) : List Transition :=
  (graph.states.flatMap fun state => state.2.outgoing state.1 sourcePath) ++
    match graph.rootStatus.filter (· != "") with
    | some status => graph.root.outgoing status sourcePath
    | none => []

/-- An edge from elsewhere that leads into the target and applies to the platform, if one is
named. -/
def leadsInto (target : String) (platform : Option String) (transition : Transition) : Bool :=
  StateName.denotes transition.toState target &&
    !StateName.denotes transition.fromState target &&
    (platform.map transition.appliesTo).getD true

def incoming (graph : StateGraph) (target : String) (sourcePath platform : Option String) :
    List Transition :=
  (graph.allTransitions sourcePath).filter (leadsInto target platform)

/-- The record of a state: a sub-state of that very name, else one whose name or status denotes it,
else the root by its status. -/
def recordIn (graph : StateGraph) (state : String) : Option StateRecord :=
  match graph.state? state with
  | some record => some record
  | none =>
      match graph.states.find? fun named =>
          StateName.denotes named.1 state || StateName.denotes? named.2.info.status state with
      | some named => some named.2
      | none =>
          if StateName.denotes? graph.rootStatus state then some graph.root else none

end StateGraph

namespace Transition

/-- States that are taken as previous before all others, the most likely first. -/
def likelyPrevious : List String :=
  ["draft", "filling", "empty", "pending", "created"]

/-- The edge from the most likely previous state; the first edge when none is likely. -/
def pickPrevious (candidates : List Transition) : Option Transition :=
  (likelyPrevious.findSome? fun preferred =>
      candidates.find? fun candidate => StateName.denotes candidate.fromState preferred).or
    candidates.head?

/-- The first edge of each key. -/
def dedupe (transitions : List Transition) : List Transition :=
  go [] transitions
where
  go (seen : List (String × String)) : List Transition → List Transition
    | [] => []
    | transition :: rest =>
        if seen.contains transition.key then go seen rest
        else transition :: go (transition.key :: seen) rest

/-- Names that a list holds more than once, sorted. -/
def repeatedNames (names : List String) : List String :=
  ((names.filter fun name => 1 < names.count name).eraseDups).mergeSort fun x y => !(y < x)

/-- The first transition whose steps store two results under one name. -/
def repeatedStore? (transitions : List Transition) : Option (Transition × List String) :=
  transitions.findSome? fun transition =>
    match transition.action with
    | none => none
    | some action =>
        let names := repeatedNames action.storedNames
        if names.isEmpty then none else some (transition, names)

end Transition

def StateGraph.previousState (graph : StateGraph) (target : String) (platform : Option String) :
    Option String :=
  (Transition.pickPrevious (graph.incoming target none platform)).map (·.fromState)

end ScreenFlow
