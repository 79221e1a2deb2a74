import ScreenFlow.Screen.Block

/-!
The emission mode of a screen.  A screen is emitted in raw mode when one of its blocks needs it; on
a native platform every screen is emitted in structured mode, and the reason that was passed over
is kept.
-/

namespace ScreenFlow

inductive EmissionMode where
  | structured
  | raw
  deriving DecidableEq, Repr

def EmissionMode.name : EmissionMode → String
  | structured => "structured"
  | raw => "raw"

inductive RawReason where
  | globalOverride
  | customCode
  | functionAssertions
  | externalCall
  deriving DecidableEq, Repr

def RawReason.text : RawReason → String
  | globalOverride => "global override"
  | customCode => "custom code"
  | functionAssertions => "function assertions"
  | externalCall => "external function call"

structure ModeDecision where
  mode : EmissionMode
  reason : Option RawReason := none
  downgradedFrom : Option RawReason := none
  deriving DecidableEq, Repr

namespace ModeDecision

/-- Names that mean the screen's own object. -/
def selfNames : List String := ["", "this", "screen", "screenObject"]

/-- A call whose object is not the screen's own. -/
def isExternalCall (block : Block) (ownObject : String) : Except Failure Bool := do
  if block.type = BlockType.functionCall then
    let object := (← block.callData).objectName
    return !selfNames.contains object && object != ownObject
  else return false

def hasCustomCode (block : Block) : Bool :=
  block.type == BlockType.customCode && !isBlankText block.sourceCode

def hasFunctionAssertions (block : Block) : Except Failure Bool := do
  if block.type = BlockType.uiAssertion then
    return (← block.uiChecks).hasFunctionAssertions
  else return false

/-- Whether some item passes the test; items after the first that does are not tested. -/
def anyItem (test : α → Except Failure Bool) : List α → Except Failure Bool
  | [] => .ok false
  | item :: rest => do if ← test item then return true else anyItem test rest

/-- The first reason, in order of rank, to emit enabled blocks in raw mode. -/
def rawReason (blocks : List Block) (ownObject : String) (forceRaw : Bool) :
    Except Failure (Option RawReason) := do
  if forceRaw then return some .globalOverride
  else if blocks.any hasCustomCode then return some .customCode
  else if ← anyItem hasFunctionAssertions blocks then return some .functionAssertions
  else if ← anyItem (isExternalCall · ownObject) blocks then return some .externalCall
  else return none

/-- Raw statements use what only a browser offers. -/
def ofReason (reason : Option RawReason) (isNative : Bool) : ModeDecision :=
  match reason with
  | none => { mode := .structured }
  | some reason =>
      if isNative then { mode := .structured, downgradedFrom := some reason }
      else { mode := .raw, reason := some reason }

def select (blocks : List Block) (ownObject : String) (isNative forceRaw : Bool) :
    Except Failure ModeDecision := do
  return ofReason (← rawReason blocks ownObject forceRaw) isNative

end ModeDecision

end ScreenFlow
