import ScreenFlow.Failure
import ScreenFlow.Screen.Payload

/-!
Validation blocks.  The payload of a block is kept as data and read when it is needed; a payload
that cannot be read is a validation failure that names the block.
-/

namespace ScreenFlow

structure Block where
  id : Option String := none
  type : String := ""
  label : Option String := none
  order : Binary64 := .zero false
  enabled : Bool := true
  data : List (String × Value) := []
  code : Option String := none
  wrapInTestStep : Bool := true
  testStepName : Option String := none
  assertions : List DataAssertion := []
  deriving Repr

namespace BlockType

def uiAssertion : String := "ui-assertion"
def functionCall : String := "function-call"
def dataAssertion : String := "data-assertion"
def customCode : String := "custom-code"

end BlockType

namespace Schema

/-- A position among others; what is not a number counts as zero. -/
def order (value : Value) : Reading Binary64 :=
  match value with
  | .int n =>
      match Binary64.ofInt n with
      | .infinite _ => .fault .notNumber
      | x => .value x
  | .float x => .value x
  | _ => .value (.zero false)

/-- Only an explicit `false` turns a flag off. -/
def flag (value : Value) : Reading Bool :=
  match value with
  | .bool false => .value false
  | _ => .value true

end Schema

namespace Block

def title : String := "Block"

def read : Value → Reading Block :=
  Schema.record fun entries =>
    Block.mk
      <$> Schema.optional entries (.same "id") none Schema.optionalString
      <*> Schema.optional entries (.same "type") "" Schema.string
      <*> Schema.optional entries (.same "label") none Schema.optionalString
      <*> Schema.optional entries (.same "order") (.zero false) Schema.order
      <*> Schema.optional entries (.same "enabled") true Schema.flag
      <*> Schema.optional entries (.same "data") []
        (fun value => Schema.namedValues (TextChecks.mapOrEmpty value))
      <*> Schema.optional entries (.same "code") none Schema.optionalString
      <*> Schema.optional entries ⟨"wrapInTestStep", "wrap_in_test_step"⟩ true Schema.flag
      <*> Schema.optional entries ⟨"testStepName", "test_step_name"⟩ none Schema.optionalString
      <*> Schema.optional entries (.same "assertions") []
        (Schema.recordsOnly DataAssertion.read)
      <* Schema.onlyNames entries

def filled (text : Option String) : Option String :=
  text.filter (· != "")

/-- What the block is called in messages. -/
def displayName (block : Block) : String :=
  ((filled block.label).or (filled block.id)).getD "unnamed"

/-- What the block is called in generated code. -/
def heading (block : Block) : String :=
  (filled block.label).getD block.type

def payload (block : Block) (title : String) (read : Value → Reading α) (data : Value) :
    Except Failure α :=
  match read data with
  | .value result => .ok result
  | .issues found =>
      .error (.validation (.invalidBlock block.type block.displayName title found))
  | .overflow => .error .overflow

def dataValue (block : Block) : Value :=
  TextChecks.namedMap block.data

def uiChecks (block : Block) : Except Failure UiChecks :=
  block.payload UiChecks.title UiChecks.read block.dataValue

def callData (block : Block) : Except Failure CallData :=
  block.payload CallData.title CallData.read block.dataValue

/-- The assertions of the block itself, else those of its data. -/
def dataAssertions (block : Block) : Except Failure (List DataAssertion) :=
  if block.assertions.isEmpty then
    (Value.orNull (block.data.lookup "assertions")).mapsOnly.mapM fun assertion =>
      block.payload DataAssertion.title DataAssertion.read assertion
  else .ok block.assertions

def sourceCode (block : Block) : String :=
  match block.code with
  | some code => code
  | none => ((Value.orNull (block.data.lookup "code")).string?).getD ""

/-- The names the block stores results under, in order. -/
def storedNames (block : Block) : Except Failure (List String) :=
  if block.type = BlockType.functionCall then do
    return (← block.callData).stored?.toList
  else if block.type = BlockType.uiAssertion then do
    return (← block.uiChecks).assertions.filterMap FunctionAssertion.stored?
  else
    .ok (filled (Value.orNull (block.data.lookup "storeAs")).string?).toList

end Block

end ScreenFlow
