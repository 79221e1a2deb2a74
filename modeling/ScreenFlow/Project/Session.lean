import ScreenFlow.Config
import ScreenFlow.Project.FileTree
import ScreenFlow.Project.StateUnit
import ScreenFlow.Template

/-!
What is remembered between compilations: the files, the units that have been loaded, the settings of
projects and the templates.  A unit stays as it was loaded until it is forgotten; a load that fails
leaves nothing behind.
-/

namespace ScreenFlow

/-- Where templates are taken from: the one that is built in, or a directory. -/
inductive TemplateSource where
  | builtIn
  | directory (path : Path)
  deriving DecidableEq, Repr

structure Session where
  files : FileTree
  /-- The directory by which the root of a project is known. -/
  marker : String := "tests"
  units : List (Path × StateUnit) := []
  configs : List (Path × Config) := []
  templates : List ((TemplateSource × String) × List Template.Node) := []
  /-- The template directory that the environment names. -/
  templatesDir : Option String := none

/-- Work in a session.  What it has remembered by the time it fails stays remembered. -/
abbrev Work := ExceptT Failure (StateM Session)

/-- The most directories that are searched upwards. -/
def mostLevels : Nat := 10

namespace Session

/-- A directory and those above it, as many as are searched. -/
def upwards : Nat → Path → List Path
  | 0, _ => []
  | levels + 1, path =>
      path :: if path.parent = path then [] else upwards levels path.parent

/-- The first directory above a file that holds the marker directory. -/
def projectRoot? (files : FileTree) (path : Path) (marker : String) : Option Path :=
  (upwards mostLevels (files.resolve path).parent).find? fun directory =>
    files.isDirectory (directory.child marker)

def rootNote (path root : Path) : Degradation :=
  ⟨"loader", "project root of " ++ path.name, root.toText, []⟩

/-- The unit in a file as it is now.  The path is absolute and without double dots. -/
def freshUnit (files : FileTree) (marker : String) (path : Path) : Except LoadFailure StateUnit :=
  match files.text? path with
  | none => .error (.notFound path.toText)
  | some text => do
      let found ← StateUnit.ofFile path text
      match projectRoot? files path marker with
      | some root => return { found with projectRoot := root }
      | none => return { found with
          projectRoot := path.parent
          degradations := rootNote path path.parent :: found.degradations }

/-- The unit in a file: the one remembered, else the one that is there now. -/
def unit (path : Path) : Work StateUnit := do
  let session ← get
  let path := session.files.resolve path
  match session.units.lookup path with
  | some known => return known
  | none =>
      match freshUnit session.files session.marker path with
      | .ok found => do
          modify fun session => { session with units := (path, found) :: session.units }
          return found
      | .error failure => throw (.load failure)

/-- Forgets the unit of a file, or every unit. -/
def forget (session : Session) (path : Option Path) : Session :=
  match path with
  | some path =>
      let path := session.files.resolve path
      { session with units := session.units.filter fun entry => entry.1 != path }
  | none => { session with units := [] }

/-- The unit in a file as it is now, which is remembered from then on. -/
def reload (path : Path) : Work StateUnit := do
  modify (·.forget (some path))
  unit path

/-- The settings of a project, read once. -/
def config (root : Path) : Work Config := do
  let session ← get
  let root := session.files.resolve root
  match session.configs.lookup root with
  | some known => return known
  | none => do
      let found := Config.ofFile (session.files.text? (root.child Config.fileName))
      modify fun session => { session with configs := (root, found) :: session.configs }
      return found

end Session

namespace Work

def ofExcept : Except Failure α → Work α
  | .ok a => return a
  | .error failure => throw failure

/-- Carries out work and gives its result or its failure. -/
def outcome (work : Work α) : Work (Except Failure α) :=
  ExceptT.lift (ExceptT.run work)

/-- The result of work that may fail in one of the ways that are reported; any other failure goes
on. -/
def attempt (work : Work α) : Work (Option α) := do
  match ← outcome work with
  | .ok a => return some a
  | .error failure => if failure.isReported then return none else throw failure

end Work

end ScreenFlow
