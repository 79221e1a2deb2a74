import ScreenFlow.Graph.Action

/-!
Edges between states: as a state declares them, and resolved, with both ends and the event.
-/

namespace ScreenFlow

/-- An edge as the state it leaves declares it. -/
structure Edge where
  target : String
  platforms : List String := []
  action : Option Action := none
  deriving Repr

namespace Edge

/-- An edge may be given by its target alone, and the first of a list stands for the list. -/
def unfolded (value : Value) : Value :=
  let value :=
    match value with
    | .list [] => .map []
    | .list (first :: _) => first
    | value => value
  if value.isString then .map [(.name "target", value)] else value

def optionalAction (value : Value) : Reading (Option Action) :=
  match value with
  | .null => .value none
  | value => (Action.read value).map some

def read (value : Value) : Reading Edge :=
  Schema.record
    (fun entries =>
      Edge.mk
        <$> Schema.required entries (.same "target") Schema.string
        <*> Schema.optional entries (.same "platforms") [] (Schema.listOrEmpty Schema.string)
        <*> Schema.optional entries ⟨"actionDetails", "action_details"⟩ none optionalAction
        <* Schema.onlyNames entries)
    (unfolded value)

end Edge

/-- A resolved edge. -/
structure Transition where
  event : String
  fromState : String
  toState : String
  platforms : List String := []
  action : Option Action := none
  sourcePath : Option String := none
  deriving Repr

namespace Transition

/-- Edges with the same key are the same edge. -/
def key (transition : Transition) : String × String :=
  (transition.fromState, transition.event)

/-- An edge without a platform list applies everywhere. -/
def appliesTo (transition : Transition) (platform : String) : Bool :=
  transition.platforms.isEmpty || transition.platforms.contains platform

def ofEdge (event fromState : String) (edge : Edge) (sourcePath : Option String) : Transition where
  event
  fromState
  toState := edge.target
  platforms := edge.platforms
  action := edge.action
  sourcePath

/-- The edge in words, as far as its event. -/
def departure (fromState event : String) : String :=
  fromState ++ " --" ++ event ++ "-->"

/-- The edge in words. -/
def words (fromState event toState : String) : String :=
  departure fromState event ++ " " ++ toState

end Transition

end ScreenFlow
