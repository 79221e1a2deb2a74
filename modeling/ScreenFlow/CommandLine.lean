import ScreenFlow.CommandLine.EnvironmentFile
import ScreenFlow.CommandLine.Invocation
import ScreenFlow.Generator

/-!
The command line: generating the tests of a unit, or printing what is known about its states.  A
failure of the compiler is reported in one line.
-/

namespace ScreenFlow.CommandLine

/-- What a run leaves behind: its exit status and what it has printed. -/
structure Report where
  status : Nat
  out : String := ""
  err : String := ""
  deriving DecidableEq, Repr

def usage : String :=
  "usage: screenflow [--project-root DIR] [--templates-dir DIR] (generate | inspect) UNIT\n" ++
  "    [--platform NAME] [--state NAME] [--event NAME --from-state NAME]\n" ++
  "    [--raw] [--write] [--output-dir DIR]\n"

/-- The variable that names the directory of the templates. -/
def templatesVariable : String := "TESTGEN_TEMPLATES_DIR"

def environmentFile : String := ".env"

/-- Takes the directory of the templates from the environment file, unless it is known already. -/
def readEnvironment : Work Unit :=
  modify fun session =>
    match session.templatesDir, session.files.text? (.parse environmentFile) with
    | none, some text =>
        { session with templatesDir := EnvironmentFile.lookup? templatesVariable text }
    | _, _ => session

/-- A transition is named by its event and the state it leaves, both of them. -/
def namedTransition (given : Given) : Option NamedTransition :=
  match (given.value? "--event").filter (· != ""), (given.value? "--from-state").filter (· != "")
  with
  | some event, some fromState => some { event, fromState }
  | _, _ => none

def request (unit : String) (given : Given) : UnitRequest where
  unit := .parse unit
  platform := (given.value? "--platform").getD "web"
  state := given.value? "--state"
  named := namedTransition given
  forceRaw := given.has "--raw"
  outputDir := given.value? "--output-dir"

/-- What is printed for a test: its text, or the place it was written to. -/
def testText (test : GeneratedTest) : String :=
  let summary := test.document.summary
  match test.path with
  | some path => "✅ Written: " ++ path.toText ++ " (" ++ summary.mode ++ ")\n"
  | none =>
      "// ===== " ++ summary.testFileName ++ " (" ++ summary.mode ++ ") =====\n" ++
        test.code ++ "\n"

def degradationText (record : Degradation) : String :=
  "   ⚠️  " ++ record.text ++ "\n"

def testsReport (tests : List GeneratedTest) : Report :=
  if tests.isEmpty then { status := 0, out := "No states with setup found, nothing generated\n" }
  else {
    status := 0
    out := String.join (tests.map testText)
    err := String.join (tests.flatMap fun test => test.degradations.map degradationText) }

def summaryValue (summary : StateSummary) : Value :=
  StateSummary.named summary.record

def summariesReport (summaries : Outcome StateSummary) : Report :=
  let payload :=
    match summaries.map summaryValue with
    | .one value => value
    | .many values => .list values
  { status := 0, out := Json.text payload (some (Json.spaces 2)) ++ "\n" }

def runCommand (command : Command) (unit : String) (project given : Given) : Work Report := do
  let generator ← Generator.create (project.value? "--project-root")
    (project.value? "--templates-dir")
  match command with
  | .generate =>
      return testsReport (← generator.generate (request unit given) (given.has "--write")).items
  | .inspect => return summariesReport (← generator.inspect (request unit given))

/-- The report of a command, in which a failure of the compiler is one line. -/
def reported (work : Work Report) : Work Report := do
  match ← work.outcome with
  | .ok report => return report
  | .error failure =>
      if failure.isReported then
        return { status := 1, err := "❌ " ++ failure.message Cause.text ++ "\n" }
      else throw failure

/-- Runs the program on the words of a command line. -/
def run (words : List String) : Work Report := do
  readEnvironment
  match Invocation.ofTexts words with
  | .help => return { status := 0, out := usage }
  | .idle => return { status := 0, out := usage }
  | .refused => return { status := 2, err := usage }
  | .run command unit project given => reported (runCommand command unit project given)

end ScreenFlow.CommandLine
