import ScreenFlow.Schema
import ScreenFlow.Value.Written

/-!
What can go wrong, told by its cause.  The wording of every cause stands in this module; the text of
a nested cause is a parameter of the wording, so that a caller may leave it out.

A degradation records that a lookup fell back to a guess.  It never stops a compilation.
-/

namespace ScreenFlow

/-- Why a text or a value could not be read. -/
inductive Cause where
  | schema (title : String) (issues : List Issue)
  | json
  | sourceText
  | forbiddenCharacter
  | template
  deriving DecidableEq, Repr

/-- The way a unit was read. -/
inductive Strategy where
  | dynamic
  | sourceTree
  | json
  deriving DecidableEq, Repr

def Strategy.name : Strategy → String
  | dynamic => "dynamic"
  | sourceTree => "syntax"
  | json => "json"

inductive LoadFailure where
  | notFound (path : String)
  | unreadable (path : String)
  | unparsable (path : String) (cause : Cause)
  | notObject (path : String)
  | noAttribute (path : String)
  | noGraph (path : String) (attempted : List Strategy)
  | notMap (path : String) (strategy : Strategy)
  | invalid (path : String) (strategy : Strategy) (title : String) (issues : List Issue)
  deriving DecidableEq, Repr

inductive ValidationFailure where
  | unknownState (state unit : String) (available : List String)
  | unknownStatus (state unit : String)
  | repeatedNames (names : List String) (fromState event toState : String)
  | emptyField (name : String)
  | invalidBlock (type name : String) (title : String) (issues : List Issue)
  | invalidScreen (screen platformKey : String) (issues : List Issue)
  deriving DecidableEq, Repr

inductive Failure where
  | load (failure : LoadFailure)
  | validation (failure : ValidationFailure)
  | templateNotFound (template directory : String)
  | invalidTemplate (template : String)
  | unknownKey (key : String)
  | undefinedVariable (name : String)
  | missingAttribute (kind name : String)
  | schema (title : String) (issues : List Issue)
  | sourceText
  | badValue
  | badType
  | badPosition
  | noOperation
  | overflow
  | noDirectory
  | notADirectory
  | notAFile
  | absolutePattern
  deriving DecidableEq, Repr

namespace Cause

def issueText (issue : Issue) : String :=
  ".".intercalate (issue.path.map placeText) ++ ": " ++ faultText issue.fault
where
  placeText : Place → String
    | .key name => name
    | .index position => toString position
  faultText : Fault → String
    | .missing => "field required"
    | .notString => "a string is expected"
    | .notBool => "a truth value is expected"
    | .unreadableBool => "the text is no truth value"
    | .notNumber => "a number is expected"
    | .notList => "a list is expected"
    | .notMap => "a map is expected"
    | .notRecord => "a record is expected"
    | .unreadable => "the value cannot be read"
    | .notFieldName => "field names are strings"

/-- A description of the cause for the reader of a message. -/
def text : Cause → String
  | schema title issues =>
      toString issues.length ++ " issue(s) in " ++ title ++ ": " ++
        "; ".intercalate (issues.map issueText)
  | json => "not a JSON text"
  | sourceText => "not a unit text"
  | forbiddenCharacter => "the text holds a null character"
  | template => "not a template"

end Cause

namespace LoadFailure

def attempt (path : String) (strategy : Strategy) : String :=
  strategy.name ++ ":" ++ path

def attempted : LoadFailure → List String
  | notFound path => [path]
  | unreadable path => [attempt path .json]
  | unparsable path _ => [attempt path .dynamic, attempt path .sourceTree]
  | notObject path => [attempt path .json]
  | noAttribute path => [attempt path .dynamic]
  | noGraph path strategies => strategies.map (attempt path)
  | notMap path strategy => [attempt path strategy]
  | invalid path strategy _ _ => [attempt path strategy]

def cause? : LoadFailure → Option Cause
  | unreadable _ => some .json
  | unparsable _ cause => some cause
  | invalid _ _ title issues => some (.schema title issues)
  | _ => none

def summary : LoadFailure → String
  | notFound path => "Unit not found: " ++ path
  | unreadable path => "Cannot read " ++ path
  | unparsable path _ => "Cannot load " ++ path
  | notObject path => "Unit " ++ path ++ " is not a JSON object"
  | noAttribute path => "Invalid unit: missing xstate_config in " ++ path
  | noGraph path _ => "No state graph found in " ++ path
  | notMap path _ => "State graph in " ++ path ++ " is not a mapping"
  | invalid path _ _ _ => "Invalid state graph in " ++ path

end LoadFailure

namespace ValidationFailure

def cause? : ValidationFailure → Option Cause
  | invalidBlock _ _ title issues => some (.schema title issues)
  | invalidScreen _ _ issues => some (.schema "ValidationScreen" issues)
  | _ => none

def summary : ValidationFailure → String
  | unknownState state unit available =>
      "State \"" ++ state ++ "\" not found in " ++ unit ++ " (available: " ++
        commaSeparated available ++ ")"
  | unknownStatus state unit =>
      "State \"" ++ state ++ "\" not found in single-state unit " ++ unit
  | repeatedNames names fromState event toState =>
      "Duplicate storeAs " ++ commaSeparated names ++ " in " ++ fromState ++ " --" ++ event ++
        "--> " ++ toState
  | emptyField name => "Missing required context field: " ++ name
  | invalidBlock type name _ _ => "Invalid " ++ type ++ " block " ++ name
  | invalidScreen screen platformKey _ =>
      "Invalid validation screen " ++ screen ++ " for " ++ platformKey

end ValidationFailure

namespace Failure

/-- The text of a nested cause is what `causeText` gives for it. -/
def withCause (summary : String) (cause : Option Cause) (causeText : Cause → String) : String :=
  match cause with
  | some cause => summary ++ ": " ++ causeText cause
  | none => summary

def cause? : Failure → Option Cause
  | load failure => failure.cause?
  | validation failure => failure.cause?
  | invalidTemplate _ => some .template
  | _ => none

def summary : Failure → String
  | load failure => failure.summary
  | validation failure => failure.summary
  | templateNotFound template directory =>
      "Template not found: " ++ template ++ " (searched " ++ directory ++ ")"
  | invalidTemplate template => "Template " ++ template ++ " is invalid"
  | unknownKey key => Value.writtenText key
  | undefinedVariable name => "'" ++ name ++ "' is undefined"
  | missingAttribute kind name => "'" ++ kind ++ "' has no attribute '" ++ name ++ "'"
  | schema title issues => Cause.text (.schema title issues)
  | sourceText => Cause.text .sourceText
  | badValue => "the value cannot be read"
  | badType => "the operation does not apply to the value"
  | badPosition => "there is no such position"
  | noOperation => "the value has no such operation"
  | overflow => "the number is too large"
  | noDirectory => "the directory does not exist"
  | notADirectory => "a file stands in place of the directory"
  | notAFile => "a directory stands in place of the file"
  | absolutePattern => "the pattern must be relative"

def attempted (failure : Failure) : List String :=
  match failure with
  | load failure => failure.attempted
  | _ => []

/-- The one-line message of a failure. -/
def message (failure : Failure) (causeText : Cause → String) : String :=
  withCause failure.summary failure.cause? causeText ++
    (if failure.attempted.isEmpty then ""
     else " (attempted: " ++ commaSeparated failure.attempted ++ ")")

/-- Failures of the compiler itself, which the command line reports in one line. -/
def isReported : Failure → Bool
  | load _ => true
  | validation _ => true
  | templateNotFound .. => true
  | invalidTemplate _ => true
  | _ => false

end Failure

structure Degradation where
  component : String
  subject : String
  fallback : String
  alternatives : List String := []
  deriving DecidableEq, Repr

def Degradation.text (record : Degradation) : String :=
  "[" ++ record.component ++ "] " ++ record.subject ++ " -> " ++ record.fallback ++
    (if record.alternatives.isEmpty then ""
     else " (alternatives: " ++ commaSeparated record.alternatives ++ ")")

end ScreenFlow
