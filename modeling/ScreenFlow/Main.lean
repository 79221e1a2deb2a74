import ScreenFlow.CommandLine

/-!
The program: reads the files around the working directory and the paths that are named, runs the
command line on them, and writes and prints what comes of it.
-/

namespace ScreenFlow

/-- Adds what is in a directory on disk and below it; directories that are only linked to are left
out, and the topmost directory is not gone through. -/
partial def readBelow (tree : FileTree) (path : Path) : IO FileTree := do
  let mut tree := tree.addDirectory path.parts
  for entry in ← (← IO.FS.realPath path.toText).readDir do
    let child := Glob.childPath path entry.fileName
    match (← entry.path.symlinkMetadata).type with
    | .dir => if !path.parts.isEmpty then tree ← readBelow tree child
    | .file =>
        match ← (IO.FS.readFile entry.path).toBaseIO with
        | .ok text => tree := tree.addFile child.parts text
        | .error _ => pure ()
    | _ => pure ()
  return tree

def isDirectory (path : Path) : IO Bool := do
  match ← (IO.FS.realPath path.toText).toBaseIO with
  | .ok found => found.isDir
  | .error _ => return false

def readIfThere (tree : FileTree) (path : Path) : IO FileTree := do
  if ← isDirectory path then readBelow tree path else return tree

/-- The first directory above a unit that holds the marker directory, else that of the unit. -/
def rootAbove (unit : Path) : IO Path := do
  for directory in Session.upwards mostLevels unit.parent do
    if ← isDirectory (directory.child "tests") then return directory
  return unit.parent

/-- The directories that a command line works in. -/
def workPlaces (tree : FileTree) : CommandLine.Invocation → IO (List Path)
  | .run _ unit project given => do
      let named := ["--project-root", "--templates-dir"].filterMap project.value? ++
        (given.value? "--output-dir").toList
      return (← rootAbove (tree.resolve (.parse unit))) ::
        named.map fun text => tree.resolve (.parse text)
  | _ => return []

/-- The files that a command line works with: those below its directories, and the environment
file. -/
def readFiles (directory : Path) (words : List String) : IO FileTree := do
  let empty : FileTree := { workingDirectory := directory.parts }
  let mut files := empty.addDirectory directory.parts
  match ← (IO.FS.readFile (directory.child CommandLine.environmentFile).toText).toBaseIO with
  | .ok text => files := files.addFile (directory.parts ++ [CommandLine.environmentFile]) text
  | .error _ => pure ()
  for path in ← workPlaces files (CommandLine.Invocation.ofTexts words) do
    files ← readIfThere files path
  return files

/-- Writes the files that are new or changed. -/
def writeChanges (before after : FileTree) : IO Unit := do
  for (location, text) in after.files do
    if before.node? location != some (.file text) then
      IO.FS.writeFile (Path.absolute location).toText text

end ScreenFlow

open ScreenFlow in
def main (words : List String) : IO UInt32 := do
  let directory := Path.parse (toString (← IO.currentDir))
  let files ← readFiles directory words
  let templatesDir ← IO.getEnv CommandLine.templatesVariable
  let (result, session) := (CommandLine.run words).run.run { files, templatesDir }
  writeChanges files session.files
  match result with
  | .ok report => do
      IO.print report.out
      IO.eprint report.err
      return report.status.toUInt32
  | .error failure => do
      IO.eprintln (failure.message Cause.text)
      return 1
