import ScreenFlow.Schema
import ScreenFlow.Text.Blank
import ScreenFlow.Text.Class

/-!
What the blocks of a screen carry: checks on elements and on the results of screen functions, calls,
and comparisons of data.
-/

namespace ScreenFlow

/-- Expected texts by field; `spare` holds what the schema does not know. -/
structure TextChecks where
  text : List (String × Value) := []
  contains : List (String × Value) := []
  spare : Entries := []
  deriving Repr

namespace TextChecks

def mapOrEmpty (value : Value) : Value :=
  if value.isMap then value else .map []

def read (value : Value) : Reading TextChecks :=
  Schema.record
    (fun entries =>
      (fun text contains =>
          { text, contains, spare := Schema.spare entries [.same "text", .same "contains"] })
        <$> Schema.optional entries (.same "text") []
          (fun value => Schema.namedValues (mapOrEmpty value))
        <*> Schema.optional entries (.same "contains") []
          (fun value => Schema.namedValues (mapOrEmpty value))
        <* Schema.onlyNames entries)
    (mapOrEmpty value)

def namedMap (pairs : List (String × Value)) : Value :=
  .map (pairs.map fun pair => (.name pair.1, pair.2))

def toValue (checks : TextChecks) : Value :=
  .map ([(.name "text", namedMap checks.text), (.name "contains", namedMap checks.contains)] ++
    checks.spare)

def isEmpty (checks : TextChecks) : Bool :=
  checks.text.isEmpty && checks.contains.isEmpty

end TextChecks

/-- A check on the result of a function of the screen object. -/
structure FunctionAssertion where
  function : String := ""
  expect : Option String := none
  value : Value := .null
  args : List Value := []
  storeAs : Option String := none
  spare : Entries := []
  deriving Repr

namespace FunctionAssertion

def title : String := "FunctionAssertion"

def stringOrEmpty (value : Value) : Reading String :=
  .value (value.string?.getD "")

def fieldNames : List Schema.Name :=
  [.same "fn", .same "expect", .same "value", .same "args", ⟨"storeAs", "store_as"⟩]

def read : Value → Reading FunctionAssertion :=
  Schema.record fun entries =>
    (fun function expect value args storeAs =>
        { function, expect, value, args, storeAs, spare := Schema.spare entries fieldNames })
      <$> Schema.optional entries (.same "fn") "" stringOrEmpty
      <*> Schema.optional entries (.same "expect") none Schema.stringOrNone
      <*> Schema.optional entries (.same "value") .null Schema.any
      <*> Schema.optional entries (.same "args") [] (Schema.listOrEmpty Schema.any)
      <*> Schema.optional entries ⟨"storeAs", "store_as"⟩ none Schema.stringOrNone
      <* Schema.onlyNames entries

def textOrNull (text : Option String) : Value :=
  (text.map Value.text).getD .null

def toValue (assertion : FunctionAssertion) : Value :=
  .map ([
    (.name "fn", .text assertion.function),
    (.name "expect", textOrNull assertion.expect),
    (.name "value", assertion.value),
    (.name "args", .list assertion.args),
    (.name "storeAs", textOrNull assertion.storeAs)] ++ assertion.spare)

def stored? (assertion : FunctionAssertion) : Option String :=
  assertion.storeAs.filter (· != "")

end FunctionAssertion

/-- Checks on the elements of a screen. -/
structure UiChecks where
  visible : List String := []
  hidden : List String := []
  checks : TextChecks := {}
  truthy : List String := []
  falsy : List String := []
  assertions : List FunctionAssertion := []
  timeout : Option Int := none
  deriving Repr

namespace UiChecks

def title : String := "UIAssertionData"

def names : Value → Reading (List String) :=
  Schema.listOrEmpty Schema.string

/-- Numbers lose their fraction, texts of digits are read, and anything else is no timeout. -/
def readTimeout (value : Value) : Reading (Option Int) :=
  match value with
  | .int n => .value (some n)
  | .float .nan => .fault .unreadable
  | .float x =>
      match x.truncate? with
      | some n => .value (some n)
      | none => .overflow
  | .text text =>
      let digits := Text.trim text.toList
      if Text.allDigits digits then
        match Text.wholeNumber? digits with
        | some n => .value (some n)
        | none => .fault .unreadable
      else .value none
  | _ => .value none

def read : Value → Reading UiChecks :=
  Schema.record fun entries =>
    UiChecks.mk
      <$> Schema.optional entries (.same "visible") [] names
      <*> Schema.optional entries (.same "hidden") [] names
      <*> Schema.optional entries (.same "checks") {} TextChecks.read
      <*> Schema.optional entries (.same "truthy") [] names
      <*> Schema.optional entries (.same "falsy") [] names
      <*> Schema.optional entries (.same "assertions") []
        (Schema.recordsOnly FunctionAssertion.read)
      <*> Schema.optional entries (.same "timeout") none readTimeout
      <* Schema.onlyNames entries

def hasFunctionAssertions (checks : UiChecks) : Bool :=
  !checks.assertions.isEmpty || !checks.truthy.isEmpty || !checks.falsy.isEmpty

end UiChecks

/-- A call of a method of some object. -/
structure CallData where
  object : Option String := none
  method : Option String := none
  args : List Value := []
  isAsync : Bool := true
  storeAs : Option String := none
  className : Option String := none
  path : Option String := none
  deriving Repr

namespace CallData

def title : String := "FunctionCallData"

def read : Value → Reading CallData :=
  Schema.record fun entries =>
    CallData.mk
      <$> Schema.optional entries (.same "instance") none Schema.stringOrNone
      <*> Schema.optional entries (.same "method") none Schema.stringOrNone
      <*> Schema.optional entries (.same "args") [] (Schema.listOrEmpty Schema.any)
      <*> Schema.optional entries ⟨"await", "is_async"⟩ true Schema.bool
      <*> Schema.optional entries ⟨"storeAs", "store_as"⟩ none Schema.stringOrNone
      <*> Schema.optional entries ⟨"className", "class_name"⟩ none Schema.stringOrNone
      <*> Schema.optional entries (.same "path") none Schema.stringOrNone
      <* Schema.onlyNames entries

def objectName (call : CallData) : String :=
  call.object.getD ""

def stored? (call : CallData) : Option String :=
  call.storeAs.filter (· != "")

end CallData

/-- A comparison of two values by an operator. -/
structure DataAssertion where
  left : Value := .null
  operator : String := "equals"
  right : Value := .null
  message : Option String := none
  deriving Repr

namespace DataAssertion

def title : String := "DataAssertion"

def read : Value → Reading DataAssertion :=
  Schema.record fun entries =>
    DataAssertion.mk
      <$> Schema.optional entries (.same "left") .null Schema.any
      <*> Schema.optional entries (.same "operator") "equals" Schema.string
      <*> Schema.optional entries (.same "right") .null Schema.any
      <*> Schema.optional entries (.same "message") none Schema.optionalString
      <* Schema.onlyNames entries

end DataAssertion

end ScreenFlow
