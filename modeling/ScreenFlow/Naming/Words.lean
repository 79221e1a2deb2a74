import ScreenFlow.Text.Blank
import ScreenFlow.Text.Case
import ScreenFlow.Text.Pieces

/-!
Words of a name and the three ways to spell it.  A name is cut at dashes, low lines, dots and
blanks, and where a small ASCII letter or digit meets an ASCII capital.  The function and the file
of a generated test are named from these spellings.
-/

namespace ScreenFlow.Naming

def isSeparator (c : Char) : Bool :=
  c = '-' || c = '_' || c = '.' || Text.isBlank c

def isHump (before after : Char) : Bool :=
  (before.isLower || before.isDigit) && after.isUpper

/-- Cuts a text before every capital that follows a small letter or a digit. -/
def splitHumps : List Char → List (List Char)
  | [] => []
  | [c] => [[c]]
  | c :: d :: rest =>
      match isHump c d, splitHumps (d :: rest) with
      | false, word :: words => (c :: word) :: words
      | _, words => [c] :: words

def words (text : List Char) : List (List Char) :=
  (Text.splitRuns isSeparator text).flatMap splitHumps

def pascal (text : List Char) : List Char :=
  (words text).flatMap Text.upperFirst

def camel (text : List Char) : List Char :=
  Text.lowerFirst (pascal text)

def snake (text : List Char) : List Char :=
  ['_'].intercalate ((words text).map Text.lower)

end ScreenFlow.Naming

namespace ScreenFlow

/-- The words of a name run together, each with a capital first letter. -/
def pascalCase (text : String) : String :=
  String.ofList (Naming.pascal text.toList)

/-- As `pascalCase`, but with a small first letter. -/
def camelCase (text : String) : String :=
  String.ofList (Naming.camel text.toList)

/-- The words of a name in small letters, joined by low lines. -/
def snakeCase (text : String) : String :=
  String.ofList (Naming.snake text.toList)

/-- The target with the state it is reached from, else the name that overrides, else the target
alone.  An empty state or override counts as none. -/
def actionName (target : String) (fromState override : Option String) : String :=
  match fromState.filter (· != "") with
  | some state => camelCase target ++ "Via" ++ pascalCase state
  | none =>
      match override.filter (· != "") with
      | some name => name
      | none => camelCase target

def eventPart (event : String) : String :=
  upperText (replaceChar event '_' "")

/-- The action, the event if there is one, and the platform, joined by dashes. -/
def specFileName (action platformSuffix : String) (event : Option String)
    (extension : String) : String :=
  let middle := (event.filter (· != "")).toList.map eventPart
  "-".intercalate ([pascalCase action] ++ middle ++ [platformSuffix]) ++ "-UNIT." ++ extension

def specExtension : String := "spec.js"

end ScreenFlow
