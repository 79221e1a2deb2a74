import ScreenFlow.Failure
import ScreenFlow.Project.Path
import ScreenFlow.Text.Lines

/-!
The files of a project and the directories they are in, by their places: the components of an
absolute path.  A double dot in a path goes back from a directory that is really there.
-/

namespace ScreenFlow

inductive FileNode where
  | directory
  | file (text : String)
  deriving DecidableEq, Repr, Inhabited

/-- The place of a file or directory; the root has no components. -/
abbrev Location := List String

structure FileTree where
  /-- The directory that relative paths are seen from. -/
  workingDirectory : Location := []
  nodes : List (Location × FileNode) := []
  deriving Repr, Inhabited

namespace FileTree

def node? (tree : FileTree) (location : Location) : Option FileNode :=
  if location.isEmpty then some .directory else tree.nodes.lookup location

def isDirectoryAt (tree : FileTree) (location : Location) : Bool :=
  tree.node? location == some .directory

/-- One component further, if that leads anywhere. -/
def step? (tree : FileTree) (location : Location) (part : String) : Option Location :=
  if !tree.isDirectoryAt location then none
  else if part = ".." then some location.dropLast
  else
    let next := location ++ [part]
    if (tree.node? next).isSome then some next else none

def start (tree : FileTree) (path : Path) : Location :=
  if path.isAbsolute then [] else tree.workingDirectory

/-- The place that a path leads to. -/
def locate? (tree : FileTree) (path : Path) : Option Location :=
  path.parts.foldlM tree.step? (tree.start path)

def find? (tree : FileTree) (path : Path) : Option FileNode :=
  (tree.locate? path).bind tree.node?

def isDirectory (tree : FileTree) (path : Path) : Bool :=
  tree.find? path == some .directory

/-- The text of a file, its line ends unified; none when there is no such file. -/
def text? (tree : FileTree) (path : Path) : Option String :=
  match tree.find? path with
  | some (.file text) => some (String.ofList (Text.unifyLineEnds text.toList))
  | _ => none

def isFile (tree : FileTree) (path : Path) : Bool :=
  match tree.find? path with
  | some (.file _) => true
  | _ => false

/-- The absolute path without double dots, whether it is there or not. -/
def resolve (tree : FileTree) (path : Path) : Path :=
  { path.normalize (.absolute tree.workingDirectory) with root := "/" }

/-- What is in a directory, by name. -/
def children (tree : FileTree) (path : Path) : List (String × FileNode) :=
  match tree.locate? path with
  | none => []
  | some location => tree.nodes.filterMap fun entry =>
      match entry.1.getLast? with
      | some name => if entry.1.dropLast = location then some (name, entry.2) else none
      | none => none

def put (tree : FileTree) (location : Location) (node : FileNode) : FileTree :=
  if (tree.nodes.lookup location).isSome then
    { tree with
      nodes := tree.nodes.map fun entry => if entry.1 = location then (location, node) else entry }
  else { tree with nodes := tree.nodes ++ [(location, node)] }

/-- Adds a directory and those it is in, as far as they are missing. -/
def addDirectory (tree : FileTree) (location : Location) : FileTree :=
  ((List.range location.length).map fun n => location.take (n + 1)).foldl
    (fun tree place => if (tree.node? place).isSome then tree else tree.put place .directory) tree

/-- Adds a file and the directories it is in. -/
def addFile (tree : FileTree) (location : Location) (text : String) : FileTree :=
  (tree.addDirectory location.dropLast).put location (.file text)

def remove (tree : FileTree) (location : Location) : FileTree :=
  { tree with nodes := tree.nodes.filter fun entry => entry.1 != location }

/-- Writes a file into a directory that is there. -/
def write (tree : FileTree) (path : Path) (text : String) : Except Failure FileTree :=
  match tree.find? path, tree.find? path.parent with
  | some .directory, _ => .error .notAFile
  | _, some (.file _) => .error .notADirectory
  | _, none => .error .noDirectory
  | _, some .directory =>
      match tree.locate? path.parent with
      | some location => .ok (tree.put (location ++ [path.name]) (.file text))
      | none => .error .noDirectory

/-- All files, sorted. -/
def files (tree : FileTree) : List (Location × String) :=
  (tree.nodes.filterMap fun entry =>
      match entry.2 with
      | .file text => some (entry.1, text)
      | .directory => none).mergeSort fun first second => !(second.1 < first.1)

end FileTree

end ScreenFlow
