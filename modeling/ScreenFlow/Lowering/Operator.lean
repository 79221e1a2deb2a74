import ScreenFlow.Screen.Payload

/-!
Operators of data assertions, and the matchers of function assertions, as calls of the assertion
library.  The operands of an operator are put into its two expressions without any change.
-/

namespace ScreenFlow

inductive OperatorPart where
  | text (text : String)
  | left
  | right
  deriving DecidableEq, Repr

structure DataOperator where
  name : String
  subject : List OperatorPart
  matcher : List OperatorPart
  deriving Repr

namespace DataOperator

def fill (left right : String) (parts : List OperatorPart) : String :=
  String.join (parts.map fun
    | .text text => text
    | .left => left
    | .right => right)

open OperatorPart in
def all : List DataOperator := [
  ⟨"equals", [left], [text "toBe(", right, text ")"]⟩,
  ⟨"notEquals", [left], [text "not.toBe(", right, text ")"]⟩,
  ⟨"contains", [text "String(", left, text ")"], [text "toContain(String(", right, text "))"]⟩,
  ⟨"notContains", [text "String(", left, text ")"],
    [text "not.toContain(String(", right, text "))"]⟩,
  ⟨"greaterThan", [text "Number(", left, text ")"],
    [text "toBeGreaterThan(Number(", right, text "))"]⟩,
  ⟨"lessThan", [text "Number(", left, text ")"],
    [text "toBeLessThan(Number(", right, text "))"]⟩,
  ⟨"greaterOrEqual", [text "Number(", left, text ")"],
    [text "toBeGreaterThanOrEqual(Number(", right, text "))"]⟩,
  ⟨"lessOrEqual", [text "Number(", left, text ")"],
    [text "toBeLessThanOrEqual(Number(", right, text "))"]⟩,
  ⟨"matches", [text "String(", left, text ")"], [text "toMatch(new RegExp(", right, text "))"]⟩,
  ⟨"startsWith", [text "String(", left, text ").startsWith(String(", right, text "))"],
    [text "toBe(true)"]⟩,
  ⟨"endsWith", [text "String(", left, text ").endsWith(String(", right, text "))"],
    [text "toBe(true)"]⟩,
  ⟨"isDefined", [left], [text "toBeDefined()"]⟩,
  ⟨"isUndefined", [left], [text "toBeUndefined()"]⟩,
  ⟨"isTruthy", [left], [text "toBeTruthy()"]⟩,
  ⟨"isFalsy", [left], [text "toBeFalsy()"]⟩,
  ⟨"lengthEquals", [left, text "?.length"], [text "toBe(Number(", right, text "))"]⟩,
  ⟨"lengthGreaterThan", [left, text "?.length"],
    [text "toBeGreaterThan(Number(", right, text "))"]⟩]

def named? (name : String) : Option DataOperator :=
  all.find? (·.name == name)

end DataOperator

namespace FunctionAssertion

def matcherAliases : List (String × String) := [
  ("equals", "toBe"),
  ("contains", "toContain"),
  ("truthy", "toBeTruthy"),
  ("falsy", "toBeFalsy"),
  ("defined", "toBeDefined")]

def matchersWithoutArgument : List String :=
  ["toBeTruthy", "toBeFalsy", "toBeDefined", "toBeUndefined", "toBeNull"]

/-- The matcher an assertion names, under its own name or an alias; without one, the value it
expects decides. -/
def matcher (assertion : FunctionAssertion) : String :=
  let expected := assertion.expect.getD ""
  if startsWith expected "to" || startsWith expected "not." then expected
  else
    match matcherAliases.lookup expected with
    | some name => name
    | none =>
        match assertion.value with
        | .null => "toBeTruthy"
        | _ => "toBe"

def takesArgument (matcher : String) : Bool :=
  !matchersWithoutArgument.contains (String.ofList (Text.afterLast '.' matcher.toList))

end FunctionAssertion

end ScreenFlow
