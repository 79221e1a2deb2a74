import ScreenFlow.Naming.StateName
import ScreenFlow.Project.Glob
import ScreenFlow.Project.Session
import ScreenFlow.Registry

/-!
Where the unit of a status is: under the name that the registry gives for it, else under the name
that follows from the status, else in the first unit that declares it.
-/

namespace ScreenFlow

structure Locator where
  unitsDir : Path
  registry : Registry

namespace Locator

/-- Endings of unit files, in the order in which they are tried. -/
def suffixes : List String := [".py", ".json"]

def ofProject (files : FileTree) (root : Path) (config : Config) : Locator where
  unitsDir := root.child config.implicationsDir
  registry := Registry.ofFile (files.text? (root.child config.registryPath))

/-- A file name without the ending of a unit file. -/
def baseName (name : String) : String :=
  let path := Path.parse name
  if suffixes.contains path.suffix then path.stem else name

/-- The first of the sorted paths below the units that fit a pattern. -/
def searchDeep (locator : Locator) (files : FileTree) (pattern : String) :
    Except Failure (Option Path) := do
  return ((← Glob.parseDeep pattern).paths files locator.unitsDir).head?

/-- The first find of a search under each of the endings. -/
def firstFind (search : String → Except Failure (Option Path)) :
    List String → Except Failure (Option Path)
  | [] => .ok none
  | suffix :: rest => do
      match ← search suffix with
      | some path => return some path
      | none => firstFind search rest

/-- The file of a name: directly among the units, else at any depth below them. -/
def byName (locator : Locator) (files : FileTree) (name : String) :
    Except Failure (Option Path) :=
  if !files.isDirectory locator.unitsDir then .ok none
  else
    let base := baseName name
    match (suffixes.map fun suffix => locator.unitsDir.child (base ++ suffix)).find? files.isFile
    with
    | some path => .ok (some path)
    | none => firstFind (fun suffix => locator.searchDeep files (base ++ suffix)) suffixes

def isHidden (path : Path) : Bool :=
  startsWith path.name "." || startsWith path.name "_"

/-- All unit files that may be looked into, sorted. -/
def candidates (locator : Locator) (files : FileTree) : Except Failure (List Path) := do
  if !files.isDirectory locator.unitsDir then return []
  let found ← suffixes.mapM fun suffix => do
    return (← Glob.parseDeep ("*" ++ suffix)).paths files locator.unitsDir
  return Path.sort (found.flatten.filter (!isHidden ·))

/-- Whether a graph declares a status, as its own or as the name of a sub-state. -/
def declares (graph : StateGraph) (status : String) : Bool :=
  StateName.denotes? graph.rootStatus status ||
    graph.states.any fun state => StateName.denotes state.1 status

/-- The first of the files that is a unit and declares the status. -/
def scan (status : String) : List Path → Work (Option Path)
  | [] => return none
  | path :: rest => do
      match ← (Session.unit path).attempt with
      | some found => if declares found.graph status then return some path else scan status rest
      | none => scan status rest

/-- The name of a unit that follows from a status. -/
def conventionalName (status : String) : String :=
  pascalCase status ++ UnitText.Attribute.unitEnding

/-- The file of the unit that defines a status. -/
def locate (locator : Locator) (status : String) : Work (Option Path) := do
  let files := (← get).files
  let registered ←
    match (locator.registry.unitOf? status).filter (· != "") with
    | some name => Work.ofExcept (locator.byName files name)
    | none => pure none
  match registered with
  | some path => return some path
  | none => do
      match ← Work.ofExcept (locator.byName files (conventionalName status)) with
      | some path => return some path
      | none => scan status (← Work.ofExcept (locator.candidates files))

end Locator

end ScreenFlow
