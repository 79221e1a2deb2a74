import ScreenFlow.Lowering.Block
import ScreenFlow.Lowering.Operator

/-!
Structured lowering: assertions become check descriptors, one for each declared item, which are
handed to a helper of the test runtime.
-/

namespace ScreenFlow.Lowering

/-- A check descriptor: keys with expressions, in order. -/
abbrev Check := List (String × String)

/-- How a descriptor says which element is meant. -/
def selectEntries (scope : Scope) (selection : Selection) : Check :=
  ("select", Script.quote selection.name) ::
    match selection.variableName? with
    | some name => [("index", scope.resolveReference name)]
    | none =>
        match selection.index? with
        | some index => [("index", toString index)]
        | none => []

def selectorEntries (scope : Scope) (selector : Selector) : Check :=
  ("field", Script.quote selector.field) :: selectEntries scope selector.selection

def elementCheck (scope : Scope) (kind name : String) : Except Failure Check := do
  return ("check", Script.quote kind) :: selectorEntries scope (← Selector.parse name)

def textCheck (scope : Scope) (kind : String) (item : String × Value) : Except Failure Check := do
  return (← elementCheck scope kind item.1) ++ [("value", scope.resolve item.2)]

def resultCheck (kind name : String) : Check :=
  [("check", Script.quote kind), ("fn", Script.quote name)]

def entryIf (condition : Bool) (key : String) (expression : String) : Check :=
  if condition then [(key, expression)] else []

def assertionCheck (scope : Scope) (assertion : FunctionAssertion) : Except Failure Check := do
  let selector ← Selector.parse assertion.function
  let expect := (Block.filled assertion.expect).toList.map fun name => ("expect", Script.quote name)
  let value :=
    match assertion.value with
    | .null => []
    | value => [("value", scope.resolve value)]
  return [("check", Script.quote "assertion"), ("fn", Script.quote selector.field)] ++
    (if selector.selection = .single then [] else selectEntries scope selector.selection) ++
    expect ++ value ++
    entryIf (!assertion.args.isEmpty) "args" (scope.resolve (.list assertion.args)) ++
    assertion.stored?.toList.map fun name => ("storeAs", Script.quote name)

/-- One descriptor for each declared item, in the order of declaration. -/
def uiCheckEntries (scope : Scope) (data : UiChecks) : Except Failure (List Check) := do
  let visible ← data.visible.mapM (elementCheck scope "visible")
  let hidden ← data.hidden.mapM (elementCheck scope "hidden")
  let text ← data.checks.text.mapM (textCheck scope "text")
  let contains ← data.checks.contains.mapM (textCheck scope "contains")
  let assertions ← data.assertions.mapM (assertionCheck scope)
  return visible ++ hidden ++ text ++ contains ++ data.truthy.map (resultCheck "truthy") ++
    data.falsy.map (resultCheck "falsy") ++ assertions

/-- The statement that hands the descriptors over; no statement without descriptors. -/
def checkLines (object : String) (checks : List Check) : List String :=
  if checks.isEmpty then []
  else
    ["await ExpectImplication.validateChecks(" ++ object ++ ", ["] ++
      checks.map (fun check => indent ++ Script.object check ++ ",") ++
      ["], \x7b data: ctx.data, stored: storedVars \x7d);"]

def timeoutLines (timeout : Option Int) : List String :=
  match timeout with
  | some milliseconds =>
      if milliseconds = 0 then [] else ["// timeout: " ++ toString milliseconds ++ "ms"]
  | none => []

def structuredUi (block : Block) (place : Place) : Except Failure LoweredBlock := do
  let lowered ← start block
  let data ← block.uiChecks
  let checks ← uiCheckEntries place.scope data
  return { lowered with
    lines := timeoutLines data.timeout ++ checkLines place.object checks
    checks }

def dataCheck (scope : Scope) (assertion : DataAssertion) : Check :=
  let right :=
    match assertion.right with
    | .null => []
    | right => [("right", scope.resolve right)]
  [("check", Script.quote "data"), ("left", scope.resolve assertion.left),
    ("operator", Script.quote assertion.operator)] ++ right ++
    [("message", Script.quote (dataLabel assertion))]

/-- An operator that is not known is passed on, and recorded. -/
def noteOperator (fallback : String) (assertion : DataAssertion) : Compile Unit :=
  if (DataOperator.named? assertion.operator).isSome then pure ()
  else
    Compile.degrade {
      component := "block"
      subject := "data-assertion operator " ++ assertion.operator
      fallback }

def structuredData (block : Block) (place : Place) : Compile LoweredBlock := do
  let lowered ← start block
  let assertions ← block.dataAssertions
  assertions.forM (noteOperator "passed through verbatim")
  let checks := assertions.map (dataCheck place.scope)
  return { lowered with lines := checkLines place.object checks, checks }

end ScreenFlow.Lowering
