import ScreenFlow.Lowering.Ledger
import ScreenFlow.Lowering.Mode
import ScreenFlow.Scope.Resolve
import ScreenFlow.Screen.Selector
import ScreenFlow.Text.Lines

/-!
Blocks that are lowered alike in both modes: calls, custom code, and blocks of no known type.
-/

namespace ScreenFlow

/-- A block ready for emission. -/
structure LoweredBlock where
  type : String
  label : String
  order : Binary64
  lines : List String := []
  checks : List (List (String × String)) := []
  stored : List String := []
  external : Option String := none
  deriving Repr

namespace Lowering

def indent : String := "  "

/-- Where a block is lowered: on which kind of platform, for which screen object, and what it may
refer to. -/
structure Place where
  isNative : Bool
  object : String
  scope : Scope
  position : Nat

/-- A lowered block without any lines. -/
def start (block : Block) : Except Failure LoweredBlock := do
  return {
    type := block.type
    label := block.heading
    order := block.order
    stored := ← block.storedNames }

def unsupported (block : Block) (position : Nat) : Compile LoweredBlock := do
  let lowered ← start block
  let name := if block.type = "" then "unknown" else block.type
  let subject :=
    ((Block.filled block.label).or (Block.filled block.id)).getD (toString position)
  Compile.degrade {
    component := "block", subject, fallback := "skipped", alternatives := [block.type] }
  return { lowered with lines := ["// Skipped unsupported block type: " ++ name] }

/-- A statement that stores the result of an expression, if it is to be stored. -/
def statement (stored : Option String) (expression : String) : String :=
  match stored with
  | some name => Scope.storedTarget name ++ " = " ++ expression ++ ";"
  | none => expression ++ ";"

def callText (object method : String) (args : List String) (isAsync : Bool) : String :=
  (if isAsync then "await " else "") ++ object ++ "." ++ method ++ "(" ++
    commaSeparated args ++ ")"

def call (block : Block) (place : Place) : Except Failure LoweredBlock := do
  let lowered ← start block
  let data ← block.callData
  match Block.filled data.method with
  | none => return { lowered with lines := ["// Function call without a method"] }
  | some method =>
      let isOwn := ModeDecision.selfNames.contains data.objectName
      let object := if isOwn then place.object else data.objectName
      let args := data.args.map place.scope.resolve
      return { lowered with
        lines := [statement data.stored? (callText object method args data.isAsync)]
        external := if isOwn || object = place.object then none else some object }

def customCode (block : Block) (place : Place) : Except Failure LoweredBlock := do
  let lowered ← start block
  let code := trimmedRight block.sourceCode
  if code = "" then return { lowered with lines := ["// Empty custom code block"] }
  else
    let body := linesOf code
    match Block.filled block.testStepName with
    | some name =>
        if block.wrapInTestStep && !place.isNative then
          return { lowered with
            lines := ["await test.step(" ++ Script.quote name ++ ", async () => \x7b"] ++
              body.map (fun line => if line = "" then line else indent ++ line) ++ ["\x7d);"] }
        else return { lowered with lines := body }
    | none => return { lowered with lines := body }

/-- What a comparison says about itself when it fails. -/
def dataLabel (assertion : DataAssertion) : String :=
  match Block.filled assertion.message with
  | some message => message
  | none =>
      assertion.left.display ++ " " ++ assertion.operator ++
        match assertion.right with
        | .null => ""
        | right => " " ++ right.display

/-- Dashes and low lines in a block type are the same. -/
def kindOf (block : Block) : String :=
  replaceChar block.type '-' "_"

end Lowering

end ScreenFlow
