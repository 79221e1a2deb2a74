import ScreenFlow.Graph.Action
import ScreenFlow.Scope.Segment
import ScreenFlow.Screen.Block
import ScreenFlow.Script.Quoted

/-!
Scope chains.  A name between double braces is looked up in what earlier steps and blocks have
stored and in the fields of the context; the first entry of a name counts.  Whatever is not stored
is read from the context data.
-/

namespace ScreenFlow

inductive ScopeKind where
  | storedResult
  | contextField
  deriving DecidableEq, Repr

structure ScopeEntry where
  name : String
  kind : ScopeKind
  producedBy : String
  deriving DecidableEq, Repr

/-- List order is lookup order. -/
abbrev Scope := List ScopeEntry

namespace Scope

def lookup? (scope : Scope) (name : String) : Option ScopeEntry :=
  scope.find? fun entry => entry.name == name

def ofSteps (steps : List Step) : Scope :=
  steps.filterMap fun step =>
    step.stored?.map fun name => ⟨name, .storedResult, "transition:" ++ step.method⟩

def ofFields (fields : List String) : Scope :=
  fields.map fun name => ⟨name, .contextField, "context"⟩

def ofBlock (block : Block) : Except Failure Scope := do
  return (← block.storedNames).map fun name =>
    ⟨name, .storedResult, "block:" ++ block.heading⟩

def ofBlocks : List Block → Except Failure Scope
  | [] => .ok []
  | block :: rest => do return (← ofBlock block) ++ (← ofBlocks rest)

/-- The scope a block sees: what the steps of the incoming transition have stored, what the blocks
before it have stored, and the fields of the context, in this order. -/
def build (steps : List Step) (blocks : List Block) (fields : List String) :
    Except Failure Scope := do
  return ofSteps steps ++ (← ofBlocks blocks) ++ ofFields fields

def contextRoot : String := "ctx.data"

def storedRoot : String := "storedVars"

/-- The variable a stored result is kept in. -/
def storedTarget (name : String) : String :=
  Script.member storedRoot name

/-- An expression that already starts at one of the two roots. -/
def isQualified (text : String) : Bool :=
  text == contextRoot || text == storedRoot || startsWith text (contextRoot ++ ".") ||
    startsWith text (storedRoot ++ ".")

def isHeadEnd (c : Char) : Bool :=
  c = '.' || c = '['

/-- A name and the accesses behind it.  A name that starts with an access, or whose accesses go over
a line end, is taken as a whole. -/
def splitHead (name : List Char) : List Char × List Char :=
  let head := name.takeWhile fun c => !isHeadEnd c
  let rest := name.dropWhile fun c => !isHeadEnd c
  if head.isEmpty || rest.contains '\n' then (name, []) else (head, rest)

/-- The object a name is read from. -/
def rootOf (scope : Scope) (head : String) : String :=
  match scope.lookup? head with
  | some entry => if entry.kind = .storedResult then storedRoot else contextRoot
  | none => contextRoot

/-- The expression for the inside of a reference. -/
def resolveReference (scope : Scope) (reference : String) : String :=
  let name := trimmed reference
  if isQualified name then name
  else
    let (head, rest) := splitHead name.toList
    let head := String.ofList head
    Script.member (scope.rootOf head) head ++ String.ofList rest

theorem lookup?_sound {scope : Scope} {name : String} {entry : ScopeEntry}
    (hfound : scope.lookup? name = some entry) : entry ∈ scope ∧ entry.name = name := by
  constructor
  · exact List.mem_of_find?_eq_some hfound
  · simpa using List.find?_some hfound

theorem lookup?_complete {scope : Scope} {name : String} :
    scope.lookup? name = none ↔ ∀ entry ∈ scope, entry.name ≠ name := by
  simp [lookup?]

end Scope

end ScreenFlow
