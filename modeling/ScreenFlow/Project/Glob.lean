import ScreenFlow.Project.FileTree

/-!
Patterns of file names.  In a component, a star stands for any text, a question mark for one
character and brackets for one of a set; a component of two stars stands for any number of
directories.  Hidden names are no exception, and letter case counts.
-/

namespace ScreenFlow

namespace Glob

/-- A part of the pattern of one component. -/
inductive Mark where
  | char (c : Char)
  | one
  | many
  | set (negated : Bool) (ranges : List (Char × Char))
  deriving DecidableEq, Repr

/-- The ranges of a set; a dash between two characters makes a range of them. -/
def ranges : List Char → List (Char × Char)
  | a :: '-' :: b :: rest => (a, b) :: ranges rest
  | a :: rest => (a, a) :: ranges rest
  | [] => []

/-- The inside of a set and what follows it; a closing bracket in first place belongs to the set. -/
def setBody? (text : List Char) : Option (Bool × List Char × List Char) :=
  let (negated, text) :=
    match text with
    | '!' :: rest => (true, rest)
    | _ => (false, text)
  let (first, text) :=
    match text with
    | ']' :: rest => ([']'], rest)
    | _ => ([], text)
  if text.contains ']' then
    some (negated, first ++ text.takeWhile (· != ']'), (text.dropWhile (· != ']')).drop 1)
  else none

def marksFrom : Nat → List Char → List Mark
  | 0, _ => []
  | _, [] => []
  | fuel + 1, '*' :: rest => .many :: marksFrom fuel rest
  | fuel + 1, '?' :: rest => .one :: marksFrom fuel rest
  | fuel + 1, '[' :: rest =>
      match setBody? rest with
      | some (negated, body, after) => .set negated (ranges body) :: marksFrom fuel after
      | none => .char '[' :: marksFrom fuel rest
  | fuel + 1, c :: rest => .char c :: marksFrom fuel rest

def marks (pattern : String) : List Mark :=
  marksFrom pattern.length pattern.toList

def holdsChar (ranges : List (Char × Char)) (c : Char) : Bool :=
  ranges.any fun range => range.1 ≤ c && c ≤ range.2

/-- Whether a whole text fits the marks. -/
def fits : List Mark → List Char → Bool
  | [], text => text.isEmpty
  | .many :: marks, [] => fits marks []
  | .many :: marks, c :: rest => fits marks (c :: rest) || fits (.many :: marks) rest
  | .one :: marks, _ :: rest => fits marks rest
  | .char wanted :: marks, c :: rest => wanted = c && fits marks rest
  | .set negated ranges :: marks, c :: rest =>
      (holdsChar ranges c != negated) && fits marks rest
  | _ :: _, [] => false
termination_by marks text => marks.length + text.length

/-- A component of a pattern. -/
inductive Component where
  | exact (name : String)
  | wild (marks : List Mark)
  | anyDepth
  deriving DecidableEq, Repr

def isWild (c : Char) : Bool :=
  c = '*' || c = '?' || c = '['

def component? (part : String) : Option Component :=
  if part = "**" then some .anyDepth
  else if containsText part "**" then none
  else if part.toList.any isWild then some (.wild (marks part))
  else some (.exact part)

end Glob

/-- A pattern of relative paths; one that ends in a slash means directories only. -/
structure Glob where
  components : List Glob.Component
  directoriesOnly : Bool
  deriving DecidableEq, Repr

namespace Glob

def ofParts (pattern : String) (parts : List String) : Except Failure Glob :=
  match parts.mapM component? with
  | some components => .ok { components, directoriesOnly := endsWith pattern "/" }
  | none => .error .badValue

/-- The pattern a text spells. -/
def parse (pattern : String) : Except Failure Glob :=
  let path := Path.parse pattern
  if pattern = "" then .error .badValue
  else if path.isAbsolute then .error .absolutePattern
  else if path.parts.isEmpty then
    .error (if endsWith pattern "/" then .noOperation else .badPosition)
  else ofParts pattern path.parts

/-- The pattern a text spells, at any depth. -/
def parseDeep (pattern : String) : Except Failure Glob :=
  let path := Path.parse pattern
  if path.isAbsolute then .error .absolutePattern
  else ofParts pattern ("**" :: path.parts)

def childPath (path : Path) (name : String) : Path :=
  { path with parts := path.parts ++ [name] }

/-- A directory and all directories below it. -/
def directories (tree : FileTree) : Nat → Path → List Path
  | 0, path => [path]
  | fuel + 1, path =>
      path :: ((tree.children path).filter (·.2 == .directory)).flatMap fun child =>
        directories tree fuel (childPath path child.1)

/-- The paths that the components lead to from a directory. -/
def select (tree : FileTree) (directoriesOnly : Bool) : List Component → Path → List Path
  | [], path => [path]
  | .exact name :: rest, path =>
      let next := childPath path name
      let mustBeDirectory := directoriesOnly || !rest.isEmpty
      if (if mustBeDirectory then tree.isDirectory next else (tree.find? next).isSome) then
        select tree directoriesOnly rest next
      else []
  | .wild marks :: rest, path =>
      let mustBeDirectory := directoriesOnly || !rest.isEmpty
      ((tree.children path).filter fun child =>
          (!mustBeDirectory || child.2 == .directory) && fits marks child.1.toList).flatMap
        fun child => select tree directoriesOnly rest (childPath path child.1)
  | .anyDepth :: rest, path =>
      ((directories tree tree.nodes.length path).flatMap
        (select tree directoriesOnly rest)).eraseDups

/-- The paths below a directory that fit the pattern, sorted. -/
def paths (glob : Glob) (tree : FileTree) (directory : Path) : List Path :=
  if tree.isDirectory directory then
    Path.sort (select tree glob.directoriesOnly glob.components directory)
  else []

end Glob

end ScreenFlow
