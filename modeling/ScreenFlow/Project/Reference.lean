import ScreenFlow.Project.Compilation
import ScreenFlow.Project.Surroundings

/-!
References of a generated test to its dependencies.  What is not found is guessed, and the guess is
noted.
-/

namespace ScreenFlow

def Assignment.surroundings (task : Assignment) (files : FileTree) (artifact : Path) :
    Surroundings where
  files
  projectRoot := task.projectRoot
  config := task.config
  directory := artifact.parent

namespace Compilation

/-- The reference from a generated file to a target, as a platform sees it. -/
def reference (task : Assignment) (artifact : Path) (target platform : String) :
    Compilation String := do
  let around := task.surroundings (← files) artifact
  let wanted := forwardSlashes target
  match ← ofExcept (around.target? platform wanted) with
  | some path => return around.reference path
  | none => do
      let guess := Surroundings.guess wanted
      degrade "path" target guess []
      return guess

/-- The reference from a generated file to the directory of the runtime helpers. -/
def helperReference (task : Assignment) (artifact : Path) : Compilation String := do
  let around := task.surroundings (← files) artifact
  match around.helpers? with
  | some path => return around.reference path
  | none => do
      let usual := around.reference around.usualHelpers
      degrade "path" "TestContext utilities" usual []
      return usual

end Compilation

end ScreenFlow
