import ScreenFlow.Failure
import ScreenFlow.Graph.Transition
import ScreenFlow.Naming.StateName

/-!
The discovery index: a snapshot of the edges of all units, taken from outside.  Its entries are read
leniently; entries without event and both ends are passed over.
-/

namespace ScreenFlow

structure IndexEntry where
  event : String
  fromState : String
  toState : String
  platforms : List String := []
  sourceFile : Value := .null
  deriving Repr

abbrev DiscoveryIndex := List IndexEntry

namespace IndexEntry

def key (entry : IndexEntry) : String × String :=
  (entry.fromState, entry.event)

/-- The platform names a value holds, when it can be gone through at all. -/
def platformNames (value : Value) : Except Failure (List String) :=
  if !value.truthy then .ok []
  else
    match value with
    | .list items => .ok (items.filterMap Value.string?)
    | .tuple items => .ok (items.filterMap Value.string?)
    | .map entries => .ok ((entries.filter (·.1.isName)).map (·.1.text))
    | value =>
        match value.string? with
        | some text => .ok (text.toList.map fun c => String.ofList [c])
        | none => .error .badType

/-- A name that must be there and not be empty. -/
def name? (entries : Entries) (key : String) : Option String :=
  ((entries.get? key).bind Value.string?).filter (· != "")

/-- The first value that counts as true, else the last. -/
def firstTruthy (first second : Value) : Value :=
  if first.truthy then first else second

def read? (value : Value) : Except Failure (Option IndexEntry) :=
  match value with
  | .map entries =>
      match name? entries "event", name? entries "from", name? entries "to" with
      | some event, some fromState, some toState => do
          let platforms ← platformNames (.orNull (Entries.get? entries "platforms"))
          return some {
            event, fromState, toState, platforms
            sourceFile := firstTruthy (.orNull (Entries.get? entries "file"))
              (.orNull (Entries.get? entries "sourceFile")) }
      | _, _, _ => return none
  | _ => return none

/-- The edge of the entry alone, without an action.  The file it names must be a text. -/
def toTransition (entry : IndexEntry) : Except Failure Transition :=
  match Schema.optionalString entry.sourceFile with
  | .value sourcePath => .ok {
      event := entry.event, fromState := entry.fromState, toState := entry.toState
      platforms := entry.platforms, sourcePath }
  | _ => .error (.schema "Transition" [⟨[.key "source_path"], .notString⟩])

/-- Whether the entry leads into the target on the platform, if one is named. -/
def leadsInto (target : String) (platform : Option String) (entry : IndexEntry) : Bool :=
  StateName.denotes entry.toState target &&
    match platform.filter (· != "") with
    | some platform => entry.platforms.isEmpty || entry.platforms.contains platform
    | none => true

end IndexEntry

namespace DiscoveryIndex

def read (data : Value) : Except Failure DiscoveryIndex :=
  match data with
  | .map entries =>
      match Entries.get? entries "transitions" with
      | some (.list items) => do return (← items.mapM IndexEntry.read?).filterMap id
      | _ => .ok []
  | _ => .ok []

/-- Keeps the first entry of each key. -/
def dedupe (seen : List (String × String)) : DiscoveryIndex → DiscoveryIndex
  | [] => []
  | entry :: rest =>
      if seen.contains entry.key then dedupe seen rest
      else entry :: dedupe (entry.key :: seen) rest

def incoming (index : DiscoveryIndex) (target : String) (platform : Option String) :
    DiscoveryIndex :=
  dedupe [] (index.filter (IndexEntry.leadsInto target platform))

end DiscoveryIndex

end ScreenFlow
