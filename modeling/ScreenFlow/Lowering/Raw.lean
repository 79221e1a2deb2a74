import ScreenFlow.Lowering.Structured

/-!
Raw lowering: assertions become statements on browser locators, one non-empty group for each
declared item.
-/

namespace ScreenFlow.Lowering

/-- The text of a position that may be missing. -/
def positionText (scope : Scope) (selection : Selection) : String :=
  match selection.variableName?, selection.index? with
  | some name, _ => scope.resolveReference name
  | none, some index => toString index
  | none, none => "None"

def locator (place : Place) (selector : Selector) : String :=
  let base := place.object ++ "." ++ selector.field
  match selector.selection with
  | .first => base ++ ".first()"
  | .any => base ++ ".first()"
  | .last => base ++ ".last()"
  | .position _ => base ++ ".nth(" ++ positionText place.scope selector.selection ++ ")"
  | .fromVariable _ => base ++ ".nth(" ++ positionText place.scope selector.selection ++ ")"
  | _ => base

def hiddenMatcher : String := "toBeHidden()"

def locatorLines (place : Place) (selector : Selector) (matcher : String) : List String :=
  let element := place.object ++ "." ++ selector.field
  if selector.selection = .all then [
    "for (const el of await " ++ element ++ ".all()) \x7b",
    indent ++ "await expect(el)." ++ matcher ++ ";",
    "\x7d"]
  else
    (if selector.selection = .any && matcher != hiddenMatcher then
      ["expect(await " ++ element ++ ".count()).toBeGreaterThan(0);"]
     else []) ++
    ["await expect(" ++ locator place selector ++ ")." ++ matcher ++ ";"]

def elementLines (place : Place) (matcher name : String) : Except Failure (List String) := do
  return locatorLines place (← Selector.parse name) matcher

def textLines (place : Place) (matcher : String) (item : String × Value) :
    Except Failure (List String) :=
  elementLines place (matcher ++ "(String(" ++ place.scope.resolve item.2 ++ "))") item.1

def resultLine (place : Place) (matcher name : String) : String :=
  "expect(await " ++ place.object ++ "." ++ name ++ "())." ++ matcher ++ ";"

/-- The position goes in front of the arguments of the function. -/
def assertionArgs (scope : Scope) (selection : Selection) (args : List Value) : List String :=
  let leading :=
    match selection with
    | .first => ["0"]
    | .any => ["0"]
    | .position _ => [positionText scope selection]
    | .fromVariable _ => [positionText scope selection]
    | _ => []
  leading ++ args.map scope.resolve

def matcherCall (scope : Scope) (assertion : FunctionAssertion) : String :=
  let matcher := assertion.matcher
  if FunctionAssertion.takesArgument matcher then
    matcher ++ "(" ++ scope.resolve assertion.value ++ ")"
  else matcher ++ "()"

def assertionLines (place : Place) (assertion : FunctionAssertion) :
    Except Failure (List String) := do
  let selector ← Selector.parse assertion.function
  let isLast := selector.selection = .last
  let call := callText place.object selector.field
    (assertionArgs place.scope selector.selection assertion.args) true
  let target := assertion.stored?.map Scope.storedTarget
  let storing := target.toList.map fun target => target ++ " = " ++ call ++ ";"
  let subject := target.getD (if isLast then "(" ++ call ++ ")" else call)
  let subject := if isLast then subject ++ ".at(-1)" else subject
  let check := matcherCall place.scope assertion
  return storing ++
    if selector.selection = .all then [
      "for (const result of " ++ subject ++ ") \x7b",
      indent ++ "expect(result)." ++ check ++ ";",
      "\x7d"]
    else ["expect(" ++ subject ++ ")." ++ check ++ ";"]

/-- One group of lines for each declared item, in the order of declaration. -/
def uiLineGroups (place : Place) (data : UiChecks) : Except Failure (List (List String)) := do
  let visible ← data.visible.mapM (elementLines place "toBeVisible()")
  let hidden ← data.hidden.mapM (elementLines place hiddenMatcher)
  let text ← data.checks.text.mapM (textLines place "toHaveText")
  let contains ← data.checks.contains.mapM (textLines place "toContainText")
  let assertions ← data.assertions.mapM (assertionLines place)
  return visible ++ hidden ++ text ++ contains ++
    data.truthy.map (fun name => [resultLine place "toBeTruthy()" name]) ++
    data.falsy.map (fun name => [resultLine place "toBeFalsy()" name]) ++ assertions

def rawUi (block : Block) (place : Place) : Except Failure LoweredBlock := do
  let lowered ← start block
  let data ← block.uiChecks
  return { lowered with lines := (← uiLineGroups place data).flatten }

/-- An operator that is not known makes the test fail. -/
def dataLine (scope : Scope) (assertion : DataAssertion) : String :=
  match DataOperator.named? assertion.operator with
  | none =>
      "throw new Error(" ++
        Script.quote ("Unknown data-assertion operator: " ++ assertion.operator) ++ ");"
  | some operator =>
      let left := scope.resolve assertion.left
      let right := scope.resolve assertion.right
      "expect(" ++ DataOperator.fill left right operator.subject ++ ", " ++
        Script.quote (dataLabel assertion) ++ ")." ++
        DataOperator.fill left right operator.matcher ++ ";"

def rawData (block : Block) (place : Place) : Compile LoweredBlock := do
  let lowered ← start block
  let assertions ← block.dataAssertions
  assertions.forM (noteOperator "failing throw")
  return { lowered with lines := assertions.map (dataLine place.scope) }

end ScreenFlow.Lowering
