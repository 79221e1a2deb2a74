import ScreenFlow.Document.Assembly
import ScreenFlow.Project.Templates

/-!
Generating the unit tests of a state-definition unit.  The unit is read anew each time.  A unit with
several states and none named gives one test for each of its states that has a set-up.
-/

namespace ScreenFlow

structure Generator where
  /-- The root of the project; that of each unit when there is none. -/
  projectRoot : Option Path := none
  templates : TemplateSource := .builtIn

/-- What is asked for about a unit. -/
structure UnitRequest where
  unit : Path
  platform : String := "web"
  state : Option String := none
  named : Option NamedTransition := none
  forceRaw : Bool := false
  /-- Where a test is written to; the directory of the unit when there is none. -/
  outputDir : Option String := none

/-- What there is of one state or of several. -/
inductive Outcome (α : Type) where
  | one (item : α)
  | many (items : List α)

namespace Outcome

def items : Outcome α → List α
  | one item => [item]
  | many items => items

def map (f : α → β) : Outcome α → Outcome β
  | one item => one (f item)
  | many items => many (items.map f)

end Outcome

structure GeneratedTest where
  code : String
  document : Document
  degradations : List Degradation
  /-- Where the test was written to, if it was. -/
  path : Option Path := none
  deriving Repr

namespace Generator

/-- A generator that has loaded nothing yet. -/
def create (projectRoot templatesDir : Option String) : Work Generator := do
  let session ← get
  let root := (projectRoot.filter (· != "")).map fun root =>
    session.files.resolve (.parse root)
  let marker ← match root with
    | some root => do pure (← Session.config root).projectMarker
    | none => pure "tests"
  modify fun session => { session with marker, units := [] }
  return { projectRoot := root, templates := ← TemplateSource.choose templatesDir }

/-- Everything that one state of a loaded unit is compiled with. -/
structure Commission where
  task : Assignment
  sources : TransitionSources
  directory : Path

def commission (generator : Generator) (unit : StateUnit) (request : UnitRequest) :
    Work Commission := do
  let root := generator.projectRoot.getD unit.projectRoot
  let config ← Session.config root
  let task : Assignment := {
    unit, platform := request.platform, spec := config.platform request.platform, config
    projectRoot := root }
  let directory := ((request.outputDir.filter (· != "")).map Path.parse).getD unit.path.parent
  let files := (← get).files
  let sources ← Work.ofExcept (TransitionSources.ofProject files root config)
  return { task, sources, directory }

/-- The document of one state, the path of its test, and what was noted on the way. -/
def document (generator : Generator) (unit : StateUnit) (request : UnitRequest)
    (state : Option String) : Work ((Document × Path) × Ledger) := do
  let commission ← generator.commission unit request
  Compilation.run
    (Compilation.document commission.task commission.sources commission.directory
      { state, named := request.named, forceRaw := request.forceRaw })
    unit.degradations

/-- Writes the text of a test. -/
def writeTest (path : Path) (code : String) : Work Unit := do
  let session ← get
  let files ← Work.ofExcept (session.files.write path code)
  set { session with files }

/-- The test of one state; it is written only when that is asked for. -/
def test (generator : Generator) (unit : StateUnit) (request : UnitRequest) (writes : Bool)
    (state : Option String) : Work GeneratedTest := do
  let ((document, path), ledger) ← generator.document unit request state
  let context := document.context
  Work.ofExcept (Document.checkContext context)
  let code ← generator.templates.emit TemplateSource.unitTestName context
  if writes then writeTest path code
  return {
    code, document
    degradations := ledger.degradations
    path := if writes then some path else none }

/-- The states of a graph that have a set-up. -/
def statesWithSetup (graph : StateGraph) : List String :=
  (graph.states.filter fun state => !state.2.info.setup.isEmpty).map (·.1)

/-- Does something for the state that is asked for, else for every state with a set-up. -/
def forStates (request : UnitRequest) (action : StateUnit → Option String → Work α) :
    Work (Outcome α) := do
  let unit ← Session.reload request.unit
  if request.state.isNone && unit.graph.isMultiState then
    return .many (← (statesWithSetup unit.graph).mapM fun state => action unit (some state))
  else return .one (← action unit request.state)

/-- The tests of a unit. -/
def generate (generator : Generator) (request : UnitRequest) (writes : Bool) :
    Work (Outcome GeneratedTest) :=
  forStates request fun unit state => generator.test unit request writes state

/-- The summaries of a unit, without any test, its mode or its place. -/
def inspect (generator : Generator) (request : UnitRequest) : Work (Outcome StateSummary) :=
  let request := { request with forceRaw := false, outputDir := none }
  forStates request fun unit state => do
    return (← generator.document unit request state).1.1.summary

end Generator

end ScreenFlow
