import ScreenFlow.Config
import ScreenFlow.Document.Hints
import ScreenFlow.Lowering.Plan
import ScreenFlow.Template

/-!
The document of a generated test: all that its template is rendered from.  `Document.context` gives
the names under which the template knows the parts.
-/

namespace ScreenFlow

/-- An object that the test makes available, with the place it comes from. -/
structure Import where
  className : String
  varName : String
  path : String
  deriving DecidableEq, Repr

structure Document where
  summary : StateSummary
  platform : Platform
  actionLines : List String := []
  screens : List EmissionPlan := []
  imports : List Import := []
  /-- Where the runtime helpers are, as the test refers to them. -/
  helpers : String
  deriving Repr

namespace Document

def defaultTestData : String := "tests/data/shared.json"

def isNative (document : Document) : Bool :=
  document.platform.isNative

/-- The variable that holds the app under test. -/
def appObject (isNative : Bool) : String :=
  if isNative then "app" else "page"

/-- The status the test leads to; empty when the state has none. -/
def target (document : Document) : String :=
  document.summary.status.getD ""

/-- What the test does: the words of the transition, else those of the state. -/
def description (document : Document) : String :=
  let summary := document.summary
  let ofTransition := ((summary.primary.bind (·.action)).bind (·.description)).filter (· != "")
  let ofState := (summary.action.bind (·.description)).filter (· != "")
  (ofTransition.or ofState).getD ("Transition to " ++ document.target ++ " state")

/-- All lines that carry out or check something. -/
def emittedLines (document : Document) : List String :=
  document.actionLines ++ document.screens.flatMap EmissionPlan.lines

/-- Whether some line uses the helper for expectations. -/
def needsExpectations (document : Document) : Bool :=
  document.emittedLines.any (containsText · "ExpectImplication.")

/-- The data of the state, as a literal of the script. -/
def metaLiteral (document : Document) : String :=
  let summary := document.summary
  Script.literal (StateSummary.named [
    ("className", .text summary.className),
    ("status", .text document.target),
    ("previousStatus", StateSummary.textOrNull summary.previousStatus),
    ("platform", .text summary.platform),
    ("requiredFields", StateSummary.texts summary.requiredFields)])

def changeLabel (document : Document) : String :=
  document.target ++ " " ++
    (if document.summary.hasEntityLogic then document.summary.entityName else "State")

/-- Hints stand in for an action that nothing is known about. -/
def hintLines (document : Document) : List String :=
  if document.actionLines.isEmpty then
    actionHints document.isNative document.summary.triggerButton document.summary.status
  else []

def transitionValue (transition : Transition) : Value :=
  StateSummary.named [
    ("event", .text transition.event),
    ("from_state", .text transition.fromState),
    ("to_state", .text transition.toState)]

def importValue (item : Import) : Value :=
  StateSummary.named [
    ("class_name", .text item.className),
    ("var_name", .text item.varName),
    ("path", .text item.path)]

def reasonValue (reason : Option RawReason) : Value :=
  StateSummary.textOrNull (reason.map RawReason.text)

def screenValue (plan : EmissionPlan) : Value :=
  StateSummary.named [
    ("screen_key", .text plan.screenKey),
    ("mode", .text plan.decision.mode.name),
    ("mode_reason", reasonValue plan.decision.reason),
    ("downgraded_from", reasonValue plan.decision.downgradedFrom),
    ("summary", .text plan.summary),
    ("lines", StateSummary.texts plan.lines)]

def paramValue (param : OptionParam) : Value :=
  StateSummary.named [
    ("type", .text param.type),
    ("name", .text param.name),
    ("description", .text param.description)]

def fieldValue (field : DeltaField) : Value :=
  StateSummary.named [
    ("key", .text (Script.key field.name)),
    ("value", .text field.value)]

def caseValue (case : TestCase) : Value :=
  StateSummary.named [
    ("description", .text case.description),
    ("params", StateSummary.textOrNull case.params)]

/-- The parts of the document under the names that the template uses. -/
def context (document : Document) : Template.Context :=
  let summary := document.summary
  let target := document.target
  [ ("impl_class_name", .text summary.className),
    ("platform", .text summary.platform),
    ("platform_suffix", .text document.platform.suffix),
    ("is_native", .bool document.isNative),
    ("app_object", .text (appObject document.isNative)),
    ("state", StateSummary.textOrNull summary.state),
    ("target_status", .text target),
    ("previous_status", StateSummary.textOrNull summary.previousStatus),
    ("transition", (summary.primary.map transitionValue).getD .null),
    ("action_name", .text summary.actionName),
    ("action_description", .text document.description),
    ("test_file_name", .text summary.testFileName),
    ("test_description", .text (target ++ " State Transition")),
    ("utils_path", .text document.helpers),
    ("imports", .list (document.imports.map importValue)),
    ("needs_expect_implication", .bool document.needsExpectations),
    ("meta_literal", .text document.metaLiteral),
    ("option_params", .list ((optionParams summary.hasEntityLogic).map paramValue)),
    ("has_entity_logic", .bool summary.hasEntityLogic),
    ("entity_name", .text summary.entityName),
    ("entity_collection", .text (summary.entityName ++ "s")),
    ("navigation_lines", StateSummary.texts
      (navigationLines summary.platform document.isNative summary.navigation summary.status)),
    ("action_lines", StateSummary.texts document.actionLines),
    ("action_hint_lines", StateSummary.texts document.hintLines),
    ("screens", .list (document.screens.map screenValue)),
    ("delta_fields", .list (summary.deltaFields.map fieldValue)),
    ("test_cases", .list
      ((testCases summary.hasEntityLogic summary.entityName summary.status).map caseValue)),
    ("change_log_label", .text document.changeLabel),
    ("default_test_data_path", .text defaultTestData) ]

/-- Parts without which no test is written. -/
def requiredNames : List String :=
  ["impl_class_name", "action_name", "target_status", "test_file_name"]

/-- The first required part that is missing or empty. -/
def missingName? (context : Template.Context) : Option String :=
  requiredNames.find? fun name => !(Value.orNull (context.lookup name)).truthy

/-- A context in which no required part is missing. -/
def checkContext (context : Template.Context) : Except Failure Unit :=
  match missingName? context with
  | some name => .error (.validation (.emptyField name))
  | none => .ok ()

end Document

end ScreenFlow
