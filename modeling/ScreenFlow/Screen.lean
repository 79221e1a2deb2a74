import ScreenFlow.Naming.Words
import ScreenFlow.Screen.Block

/-!
Validation screens.  A screen has blocks, or it is written in the older form with the checks on the
screen itself; the older form is turned into blocks, so that both are processed alike.
-/

namespace ScreenFlow

structure Screen where
  screenKey : String := ""
  order : Binary64 := .zero false
  navigation : Value := .null
  blocks : List Block := []
  object : Option String := none
  screen : Option String := none
  name : Option String := none
  description : Option String := none
  visible : List String := []
  hidden : List String := []
  checks : TextChecks := {}
  truthy : List String := []
  falsy : List String := []
  assertions : List FunctionAssertion := []
  functions : List (String × Value) := []
  deriving Repr

namespace Screen

def title : String := "ValidationScreen"

def read : Value → Reading Screen :=
  Schema.record fun entries =>
    Screen.mk
      <$> Schema.optional entries ⟨"screenKey", "screen_key"⟩ "" Schema.string
      <*> Schema.optional entries (.same "order") (.zero false) Schema.order
      <*> Schema.optional entries (.same "navigation") .null Schema.any
      <*> Schema.optional entries (.same "blocks") [] (Schema.recordsOnly Block.read)
      <*> Schema.optional entries (.same "instance") none Schema.stringOrNone
      <*> Schema.optional entries (.same "screen") none Schema.stringOrNone
      <*> Schema.optional entries (.same "name") none Schema.stringOrNone
      <*> Schema.optional entries (.same "description") none Schema.stringOrNone
      <*> Schema.optional entries (.same "visible") [] UiChecks.names
      <*> Schema.optional entries (.same "hidden") [] UiChecks.names
      <*> Schema.optional entries (.same "checks") {} TextChecks.read
      <*> Schema.optional entries (.same "truthy") [] UiChecks.names
      <*> Schema.optional entries (.same "falsy") [] UiChecks.names
      <*> Schema.optional entries (.same "assertions") []
        (Schema.recordsOnly FunctionAssertion.read)
      <*> Schema.optional entries (.same "functions") []
        (fun value => Schema.namedValues (TextChecks.mapOrEmpty value))
      <* Schema.onlyNames entries

/-- The older form has checks of its own and no blocks. -/
def isLegacy (screen : Screen) : Bool :=
  screen.blocks.isEmpty &&
    (!screen.visible.isEmpty || !screen.hidden.isEmpty || !screen.checks.isEmpty ||
      !screen.truthy.isEmpty || !screen.falsy.isEmpty || !screen.assertions.isEmpty ||
      !screen.functions.isEmpty)

/-- The name in a file path, without directories and all that follows the first dot. -/
def baseName (path : String) : String :=
  pascalCase (String.ofList
    (Text.beforeFirst '.' (Text.afterLast '/' (forwardSlashes path).toList)))

/-- The variable that holds the screen's own object. -/
def instanceName (screen : Screen) : String :=
  match Block.filled screen.object, Block.filled screen.screen with
  | some object, _ => object
  | none, some path => uncapitalized (baseName path)
  | none, none => screen.screenKey

/-- The class of the screen's own object, if the screen names one. -/
def className (screen : Screen) : Option String :=
  match Block.filled screen.screen, Block.filled screen.object with
  | some path, _ => some (baseName path)
  | none, some object => some (pascalCase object)
  | none, none => none

def texts (items : List String) : Value :=
  .list (items.map Value.text)

/-- The checks of a screen in the older form, as one block. -/
def checksBlock (screen : Screen) : Block where
  type := BlockType.uiAssertion
  label := some "Main Assertions"
  data := [
    ("visible", texts screen.visible),
    ("hidden", texts screen.hidden),
    ("checks", screen.checks.toValue),
    ("truthy", texts screen.truthy),
    ("falsy", texts screen.falsy),
    ("assertions", .list (screen.assertions.map FunctionAssertion.toValue))]

def parameterValues (parameters : Value) : List Value :=
  match parameters with
  | .map entries => entries.map (·.2)
  | _ => []

/-- A function of a screen in the older form, as a call.  Its signature labels it and must be a
text. -/
def functionBlock (screen : Screen) (position : Nat) (method : String) (spec : Value) :
    Except Failure Block :=
  let entries := spec.entries?.getD []
  let signature := Value.orNull (Entries.get? entries "signature")
  let label := if signature.truthy then signature else .text method
  match label.string? with
  | none => .error (.schema Block.title [⟨[.key "label"], .notString⟩])
  | some label => .ok {
      type := BlockType.functionCall
      label := some label
      order := .ofInt position
      data := [
        ("instance", .text screen.instanceName),
        ("method", .text method),
        ("args", .list (parameterValues (.orNull (Entries.get? entries "parameters")))),
        ("storeAs", .orNull (Entries.get? entries "storeAs"))] }

def functionBlocks (screen : Screen) (position : Nat) :
    List (String × Value) → Except Failure (List Block)
  | [] => .ok []
  | (method, spec) :: rest => do
      return (← screen.functionBlock position method spec)
        :: (← screen.functionBlocks (position + 1) rest)

/-- The blocks of the screen, also of one in the older form. -/
def effectiveBlocks (screen : Screen) : Except Failure (List Block) :=
  if screen.isLegacy then do
    return screen.checksBlock :: (← screen.functionBlocks 1 screen.functions)
  else .ok screen.blocks

end Screen

/-- What a screen checks, counted over its blocks. -/
structure Screen.Tally where
  visible : List String := []
  hidden : List String := []
  textChecks : Nat := 0
  calls : Nat := 0

namespace Screen

def Tally.add (tally : Tally) (block : Block) : Except Failure Tally :=
  if !block.enabled then .ok tally
  else if block.type = BlockType.uiAssertion then do
    let checks ← block.uiChecks
    return { tally with
      visible := tally.visible ++ checks.visible
      hidden := tally.hidden ++ checks.hidden
      textChecks := tally.textChecks + checks.checks.text.length + checks.checks.contains.length }
  else if block.type = BlockType.functionCall then .ok { tally with calls := tally.calls + 1 }
  else .ok tally

def Tally.names (title : String) (names : List String) : List String :=
  if names.isEmpty then []
  else [title ++ ": " ++ commaSeparated names ++ " (" ++ toString names.length ++ ")"]

def Tally.number (title : String) (count : Nat) : List String :=
  if count = 0 then [] else [title ++ ": " ++ toString count]

def Tally.text (tally : Tally) : String :=
  let parts :=
    names "Visible" tally.visible ++ names "Hidden" tally.hidden ++
      number "Text checks" tally.textChecks ++ number "Function calls" tally.calls
  if parts.isEmpty then "No checks" else commaSeparated parts

/-- The screen in a few words. -/
def summary (screen : Screen) : Except Failure String := do
  let tally ← (← screen.effectiveBlocks).foldlM Tally.add {}
  return tally.text

/-- Ascending order; equal orders keep their places. -/
def byOrder (order : α → Binary64) (items : List α) : List α :=
  items.mergeSort fun first second => !(order second).lt (order first)

/-- The screens of the platform: under its very key, else under the first key that differs in case
only. -/
def platformEntries (ui : Entries) (validationKey : String) : Entries :=
  let found :=
    match Entries.get? ui validationKey with
    | some .null => none
    | found => found
  let found := found.or
    ((ui.find? fun entry => lowerText entry.1.text == lowerText validationKey).map (·.2))
  (found.bind Value.entries?).getD []

/-- A screen given as a list is its first item. -/
def definition? (value : Value) : Option Entries :=
  match value with
  | .list (first :: _) => first.entries?
  | value => value.entries?

def keyValue : Key → Value
  | .name text => .text text
  | .other written => .other "key" written

def readUnder (key : Key) (validationKey : String) (definition : Entries) :
    Except Failure Screen :=
  let entries := definition.foldl (fun entries entry => Entries.put entries entry.1 entry.2)
    [(.name "screenKey", keyValue key)]
  match read (.map entries) with
  | .value screen =>
      .ok (if screen.screenKey = "" then { screen with screenKey := key.text } else screen)
  | .issues found =>
      .error (.validation (.invalidScreen key.text validationKey found))
  | .overflow => .error .overflow

/-- The screens of one platform in ascending order. -/
def ofPlatform (mirrorsOn : Option (List (String × Value))) (validationKey : String) :
    Except Failure (List Screen) := do
  match (mirrorsOn.bind (·.lookup "UI")).bind Value.entries? with
  | none => return []
  | some ui =>
      let definitions := (platformEntries ui validationKey).filterMap fun entry =>
        (definition? entry.2).map (entry.1, ·)
      return byOrder Screen.order
        (← definitions.mapM fun entry => readUnder entry.1 validationKey entry.2)

end Screen

end ScreenFlow
