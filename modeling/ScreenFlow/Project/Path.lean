import ScreenFlow.Text.Pieces

/-!
Paths.  A path is kept as its components; single dots and repeated slashes do not count, double dots
stay until the path is normalised.
-/

namespace ScreenFlow

structure Path where
  /-- Slashes in front; none for a relative path. -/
  root : String := ""
  parts : List String := []
  deriving DecidableEq, Repr, Inhabited

namespace Path

def rootOf (text : List Char) : String :=
  match text with
  | '/' :: '/' :: '/' :: _ => "/"
  | '/' :: '/' :: _ => "//"
  | '/' :: _ => "/"
  | _ => ""

def partsOf (text : List Char) : List String :=
  ((Text.splitOn '/' text).map String.ofList).filter fun part => part != "" && part != "."

def parse (text : String) : Path where
  root := rootOf text.toList
  parts := partsOf text.toList

def absolute (parts : List String) : Path := { root := "/", parts }

def isAbsolute (path : Path) : Bool :=
  path.root != ""

def toText (path : Path) : String :=
  if path.root = "" && path.parts.isEmpty then "."
  else path.root ++ "/".intercalate path.parts

/-- The second path seen from the first; an absolute one stands for itself. -/
def join (path other : Path) : Path :=
  if other.isAbsolute then other else { path with parts := path.parts ++ other.parts }

def child (path : Path) (text : String) : Path :=
  path.join (parse text)

def parent (path : Path) : Path :=
  { path with parts := path.parts.dropLast }

/-- The last component; empty when there is none. -/
def name (path : Path) : String :=
  path.parts.getLast?.getD ""

/-- Stem and suffix of a file name: the suffix starts at the last dot, unless that dot stands at
either end. -/
def splitName (name : List Char) : List Char × List Char :=
  match Text.cutLast? '.' name with
  | some (stem, ending) =>
      if stem.isEmpty || ending.isEmpty then (name, []) else (stem, '.' :: ending)
  | none => (name, [])

def suffix (path : Path) : String :=
  String.ofList (splitName path.name.toList).2

def stem (path : Path) : String :=
  String.ofList (splitName path.name.toList).1

def withoutSuffix (path : Path) : Path :=
  { path with parts := path.parts.dropLast ++ [path.stem] }

/-- Takes every double dot back one component; at the root it goes nowhere. -/
def collapse : List String → List String
  | parts => parts.foldl (fun done part => if part = ".." then done.dropLast else done ++ [part]) []

/-- The absolute path, seen from a directory, without double dots. -/
def normalize (path directory : Path) : Path :=
  let full := directory.join path
  { full with parts := collapse full.parts }

def commonLength : List String → List String → Nat
  | first :: firsts, second :: seconds =>
      if first = second then commonLength firsts seconds + 1 else 0
  | _, _ => 0

/-- The way from a normalised directory to a normalised path. -/
def relativeParts (directory target : List String) : List String :=
  let common := commonLength directory target
  List.replicate (directory.length - common) ".." ++ target.drop common

/-- The order of paths: component by component. -/
def before (first second : Path) : Bool :=
  first.root < second.root || (first.root = second.root && first.parts < second.parts)

def sort (paths : List Path) : List Path :=
  paths.mergeSort fun first second => !second.before first

end Path

end ScreenFlow
