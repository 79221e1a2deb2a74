import ScreenFlow.Document
import ScreenFlow.Document.Extraction
import ScreenFlow.Lowering.Steps
import ScreenFlow.Project.Reference

/-!
The document of one state: its summary, the lowered steps of the transition, the lowered screens,
and the references to everything they use.
-/

namespace ScreenFlow

/-- What is asked for about one state. -/
structure StateRequest where
  state : Option String := none
  named : Option NamedTransition := none
  forceRaw : Bool := false

/-- A transition in which no two steps store under one name. -/
def Transition.checkStores (transitions : List Transition) : Except Failure Unit :=
  match repeatedStore? transitions with
  | some (transition, names) =>
      .error (.validation (.repeatedNames names transition.fromState transition.event
        transition.toState))
  | none => .ok ()

namespace StateGraph

/-- A key of the context data counts as a field unless it is one already. -/
def isNewField (fields : List String) : Key → Bool
  | .name text => !fields.contains text
  | .other _ => true

/-- The fields of the test data: the required ones and those of the context. -/
def dataFields (graph : StateGraph) (required : List String) : List String :=
  match graph.context with
  | .map entries =>
      required ++ ((entries.map (·.1)).filter (isNewField required)).map Key.text
  | _ => required

end StateGraph

namespace Compilation

/-- The screens that show a state: those it names itself, else those of the unit. -/
def mirrors (unit : StateUnit) (record : StateRecord) : Option (List (String × Value)) :=
  match record.info.mirrorsOn.filter (!·.isEmpty) with
  | some screens => some screens
  | none => unit.mirrorsOn

def importOf (task : Assignment) (artifact : Path) (reference : Reference) :
    Compilation Import := do
  let target := (reference.path.filter (· != "")).getD reference.className
  return {
    className := reference.className
    varName := reference.instanceName
    path := ← Compilation.reference task artifact target task.platform }

/-- The document of a summary; the test is to be at the path of the artifact. -/
def assemble (task : Assignment) (record : StateRecord) (summary : StateSummary)
    (artifact : Path) (forceRaw : Bool) : Compilation Document := do
  let isNative := task.spec.isNative
  let fields := task.unit.graph.dataFields summary.requiredFields
  let action := summary.primary.bind (·.action)
  let steps := (action.map (·.steps)).getD []
  ofCompile (((action.map (·.imports)).getD []).forM Compile.register)
  let actionLines ← ofCompile (Lowering.steps steps (Document.appObject isNative) fields)
  let screens ← ofExcept
    (Screen.ofPlatform (mirrors task.unit record) task.spec.validationKey)
  let options : Lowering.Options := { isNative, steps, fields, forceRaw }
  let plans ← ofCompile (screens.mapM (Lowering.screen · options))
  let desk ← get
  let references := desk.ledger.references
  let imports ← references.mapM (importOf task artifact)
  let helpers ← helperReference task artifact
  return {
    summary := { summary with references }
    platform := task.spec
    actionLines
    screens := plans
    imports
    helpers }

/-- The document of a state, and the path its test belongs to in a directory. -/
def document (task : Assignment) (sources : TransitionSources) (directory : Path)
    (request : StateRequest) : Compilation (Document × Path) := do
  let record ← ofExcept
    ((task.unit.graph.selected task.unit.className request.state).mapError Failure.validation)
  let summary ← StateSummary.extract task sources request.state record request.named
  let artifact := directory.child summary.testFileName
  ofExcept (Transition.checkStores summary.transitions)
  return (← assemble task record summary artifact request.forceRaw, artifact)

end Compilation

end ScreenFlow
