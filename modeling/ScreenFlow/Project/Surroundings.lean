import ScreenFlow.Config
import ScreenFlow.Project.Dependency
import ScreenFlow.Project.Glob
import ScreenFlow.Project.Session

/-!
Where a generated test finds what it depends on.  A target under one of the root markers is taken
from the root of the project, whatever is there; any other is looked for by name, in the places
configured for the platform, then in those for all platforms, then in the screen directories beside
and above the test.
-/

namespace ScreenFlow

/-- What is around a generated test. -/
structure Surroundings where
  files : FileTree
  projectRoot : Path
  config : Config
  /-- The directory of the generated test. -/
  directory : Path

namespace Surroundings

/-- The reference from the test to a path. -/
def reference (around : Surroundings) (target : Path) : String :=
  Dependency.reference (.absolute around.files.workingDirectory) around.directory target

def isRooted (around : Surroundings) (target : String) : Bool :=
  around.config.rootMarkers.any (startsWith target)

/-- The first file among the paths that is named in one of the ways. -/
def firstNamed (around : Surroundings) (variants : List String) (paths : List Path) :
    Option Path :=
  paths.find? fun path => around.files.isFile path && Dependency.isNamed variants path

/-- The first file that the patterns lead to in turn; an absolute pattern is passed over. -/
def configured (around : Surroundings) (variants : List String) :
    List String → Except Failure (Option Path)
  | [] => .ok none
  | pattern :: rest =>
      if (Path.parse pattern).isAbsolute then around.configured variants rest
      else do
        let glob ← Glob.parse pattern
        match around.firstNamed variants (glob.paths around.files around.projectRoot) with
        | some path => return some path
        | none => around.configured variants rest

/-- The directories of a list up to the root of the project. -/
def upToRoot (root : Path) : List Path → List Path
  | [] => []
  | directory :: rest => directory :: if directory = root then [] else upToRoot root rest

/-- The directory of the test and those above it. -/
def ascent (around : Surroundings) : List Path :=
  upToRoot around.projectRoot (Session.upwards mostLevels around.directory)

/-- All that is in a directory, at any depth. -/
def below (around : Surroundings) (directory : Path) : List Path :=
  ({ components := [.anyDepth, .wild [.many]], directoriesOnly := false } : Glob).paths
    around.files directory

/-- The first file in a screen directory beside or above the test. -/
def nearby? (around : Surroundings) (variants : List String) : Option Path :=
  around.ascent.findSome? fun directory =>
    around.config.screenDirNames.findSome? fun name =>
      around.firstNamed variants (around.below (directory.child name))

/-- The file or place that a target means for a platform.  The target has forward slashes. -/
def target? (around : Surroundings) (platform target : String) : Except Failure (Option Path) :=
  if around.isRooted target then .ok (some (around.projectRoot.child target))
  else do
    let variants := Dependency.nameVariants target
    let patterns := ((around.config.screenPaths.lookup platform).getD []) ++
      around.config.searchPaths
    match ← around.configured variants patterns with
    | some path => return some path
    | none => return around.nearby? variants

/-- The reference that is guessed for a target which was not found. -/
def guess (target : String) : String :=
  "../" ++ Dependency.stripExtension (Path.parse target).name

/-- Places of the runtime helpers, seen from a directory. -/
def helperPlaces : List String :=
  ["ai-testing/utils", "tests/ai-testing/utils", "tests/utils", "utils"]

/-- The file by which the directory of the runtime helpers is known. -/
def helperFile : String := "TestContext.js"

/-- The directory of the runtime helpers: the configured one, else the nearest that has them. -/
def helpers? (around : Surroundings) : Option Path :=
  match around.config.utilsPath.filter (· != "") with
  | some path => some (around.projectRoot.child path)
  | none =>
      around.ascent.findSome? fun directory =>
        (helperPlaces.map directory.child).find? fun place =>
          around.files.isFile (place.child helperFile)

/-- Where the runtime helpers are expected when they are nowhere to be found. -/
def usualHelpers (around : Surroundings) : Path :=
  around.projectRoot.child "tests/ai-testing/utils"

end Surroundings

end ScreenFlow
