import ScreenFlow.Lowering.Block
import ScreenFlow.Naming.Words

/-!
The steps of the incoming transition as statements.  Every step sees what the steps before it have
stored.
-/

namespace ScreenFlow.Lowering

/-- The object a step calls: the app for the usual names, else the one it names. -/
def stepObject (step : Step) (app : String) : String :=
  if ModeDecision.selfNames.contains step.object then app else step.object

/-- An object that is neither the app nor known is registered under a class named after it. -/
def registerObject (step : Step) (app : String) : Compile Unit := do
  let ledger ← get
  if ModeDecision.selfNames.contains step.object || step.object = app ||
      ledger.hasInstance step.object then
    pure ()
  else Compile.register { className := pascalCase step.object, varName := some step.object }

def stepStatement (step : Step) (app : String) (scope : Scope) : String :=
  statement step.stored?
    (callText (stepObject step app) step.method (step.args.map scope.resolve) step.isAsync)

/-- A step with conditions is carried out only when they are met. -/
def stepLines (step : Step) (app : String) (scope : Scope) : List String :=
  let text := stepStatement step app scope
  match step.conditions with
  | .map (condition :: conditions) => [
      "if (ExpectImplication.conditionsMet(" ++
        Script.literal (.map (condition :: conditions)) ++
        ", \x7b data: ctx.data, stored: storedVars \x7d)) \x7b",
      indent ++ text,
      "\x7d"]
  | _ => [text]

def stepsFrom (earlier : List Step) (app : String) (fields : List String) :
    List Step → Compile (List String)
  | [] => pure []
  | step :: rest => do
      registerObject step app
      let scope := Scope.ofSteps earlier ++ Scope.ofFields fields
      return stepLines step app scope ++ (← stepsFrom (earlier ++ [step]) app fields rest)

def steps (steps : List Step) (app : String) (fields : List String) : Compile (List String) :=
  stepsFrom [] app fields steps

end ScreenFlow.Lowering
