import ScreenFlow.Lowering.Raw
import ScreenFlow.Screen

/-!
Emission plans: a screen with its enabled blocks in order, each lowered in the mode of the screen
and in the scope of its own position, and the objects its statements use.
-/

namespace ScreenFlow

structure EmissionPlan where
  screenKey : String
  decision : ModeDecision
  instanceName : String
  blocks : List LoweredBlock := []
  external : List Reference := []
  own : Option Reference := none
  summary : String := ""
  description : Option String := none
  navigation : Value := .null
  deriving Repr

namespace EmissionPlan

/-- The lines of each block that has any, under its label. -/
def lines (plan : EmissionPlan) : List String :=
  plan.blocks.flatMap fun block =>
    if block.lines.isEmpty then [] else ("// " ++ block.label) :: block.lines

def references (plan : EmissionPlan) : List Reference :=
  plan.own.toList ++ plan.external

end EmissionPlan

namespace Lowering

/-- Lowers a block as its type asks for. -/
def block (mode : EmissionMode) (block : Block) (place : Place) : Compile LoweredBlock :=
  match kindOf block, mode with
  | "function_call", _ => call block place
  | "custom_code", _ => customCode block place
  | "ui_assertion", .structured => structuredUi block place
  | "ui_assertion", .raw => rawUi block place
  | "data_assertion", .structured => structuredData block place
  | "data_assertion", .raw => rawData block place
  | _, _ => unsupported block place.position

/-- The enabled blocks in ascending order. -/
def enabledBlocks (screen : Screen) : Except Failure (List Block) := do
  return Screen.byOrder Block.order ((← screen.effectiveBlocks).filter (·.enabled))

/-- The scope of each position: the blocks before it count. -/
def scopes (steps : List Step) (fields : List String) (blocks : List Block) :
    Except Failure (List Scope) :=
  (List.range blocks.length).mapM fun position =>
    Scope.build steps (blocks.take position) fields

def blocksFrom (mode : EmissionMode) (isNative : Bool) (object : String) (position : Nat) :
    List (Block × Scope) → Compile (List LoweredBlock)
  | [] => pure []
  | (next, scope) :: rest => do
      let lowered ← block mode next { isNative, object, scope, position }
      return lowered :: (← blocksFrom mode isNative object (position + 1) rest)

def ownReference? (screen : Screen) : Option Reference :=
  match screen.className with
  | some "" => none
  | some className => some {
      className, path := screen.screen, varName := some screen.instanceName }
  | none => none

/-- The reference of a lowered call on an object other than the screen's own. -/
def externalReference? (block : Block) (lowered : LoweredBlock) :
    Except Failure (Option Reference) := do
  match lowered.external with
  | none => return none
  | some object =>
      let data ← block.callData
      return some {
        className := (Block.filled data.className).getD (pascalCase object)
        path := data.path
        varName := some object }

/-- The first reference of each class that has not been seen. -/
def firstOfClass (seen : List String) : List Reference → List Reference
  | [] => []
  | reference :: rest =>
      if seen.contains reference.className then firstOfClass seen rest
      else reference :: firstOfClass (reference.className :: seen) rest

/-- What one screen is lowered under. -/
structure Options where
  isNative : Bool
  steps : List Step := []
  fields : List String := []
  forceRaw : Bool := false

def screen (screen : Screen) (options : Options) : Compile EmissionPlan := do
  let blocks ← enabledBlocks screen
  let object := screen.instanceName
  let decision ← ModeDecision.select blocks object options.isNative options.forceRaw
  let scopes ← scopes options.steps options.fields blocks
  let lowered ← blocksFrom decision.mode options.isNative object 0 (blocks.zip scopes)
  let own := ownReference? screen
  own.forM Compile.register
  let called ← (blocks.zip lowered).mapM fun pair => externalReference? pair.1 pair.2
  let external := firstOfClass (own.toList.map (·.className)) (called.filterMap id)
  external.forM Compile.register
  return {
    screenKey := screen.screenKey
    decision
    instanceName := object
    blocks := lowered
    external
    own
    summary := ← screen.summary
    description := screen.description
    navigation := screen.navigation }

end Lowering

end ScreenFlow
