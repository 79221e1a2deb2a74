import ScreenFlow.Text.Blank
import ScreenFlow.Text.Case
import ScreenFlow.Text.Pieces

/-!
When two state names denote the same state.  Letter case, low lines, dashes and blanks do not count;
of one of the two names, but not of both, all but the last segment may be left out.
-/

namespace ScreenFlow.StateName

def isIgnored (c : Char) : Bool :=
  c = '_' || c = '-' || Text.isBlank c

/-- What counts of a state name. -/
def normal (name : List Char) : List Char :=
  Text.lower (name.filter fun c => !isIgnored c)

def isSegmentEnd (c : Char) : Bool :=
  c = '_' || c = '.' || c = '-' || c = ':'

def lastSegment (name : List Char) : List Char :=
  ((Text.splitRuns isSegmentEnd name).getLast?).getD name

def matchesChars (candidate target : List Char) : Bool :=
  !candidate.isEmpty && !target.isEmpty &&
    (normal candidate == normal target ||
      normal (lastSegment candidate) == normal target ||
      normal candidate == normal (lastSegment target))

/-- An empty name denotes no state. -/
def denotes (candidate target : String) : Bool :=
  matchesChars candidate.toList target.toList

/-- As `denotes`, for a name that may be missing. -/
def denotes? (candidate : Option String) (target : String) : Bool :=
  match candidate with
  | some name => denotes name target
  | none => false

end ScreenFlow.StateName
