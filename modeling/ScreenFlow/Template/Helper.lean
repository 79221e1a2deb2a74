import ScreenFlow.Failure
import ScreenFlow.Json.Writer
import ScreenFlow.Naming.Words
import ScreenFlow.Script.Literal

/-!
Helpers of templates: functions on data that a template may apply as a filter or call.  An operand
may be a name that the context lacks; most helpers fail on it, some never look at it.
-/

namespace ScreenFlow

/-- An operand of a helper, or the failure that its use means. -/
inductive Operand where
  | value (value : Value)
  | undefined (failure : Failure)

def Operand.need : Operand → Except Failure Value
  | .value given => .ok given
  | .undefined failure => .error failure

inductive Helper where
  | camel
  | pascal
  | snake
  | capitalizeFirst
  | join
  | length
  | isEmpty
  | isNotEmpty
  | allOf
  | anyOf
  | noneOf
  | eq
  | contains
  | json
  | script
  | lines
  | debug
  | upper
  | lower
  | trim
  deriving DecidableEq, Repr

namespace Helper

def names : List (String × Helper) := [
  ("camel", camel), ("pascal", pascal), ("snake", snake), ("capitalize_first", capitalizeFirst),
  ("join", join), ("length", length), ("is_empty", isEmpty), ("is_not_empty", isNotEmpty),
  ("all_of", allOf), ("any_of", anyOf), ("none_of", noneOf), ("eq", eq), ("contains", contains),
  ("json", json), ("js", script), ("lines", lines), ("debug", debug)]

/-- Helpers that can be applied as filters only. -/
def filterNames : List (String × Helper) :=
  names ++ [("upper", upper), ("lower", lower), ("trim", trim)]

/-- A name in one of the three spellings; what is no text has none. -/
def spelled (spell : String → String) (value : Value) : Value :=
  .text ((value.string?.map spell).getD "")

def capitalizedValue (value : Value) : Except Failure Value :=
  if !value.truthy then .ok (.text "")
  else
    match value with
    | .list _ => .error .noOperation
    | .tuple _ => .error .noOperation
    | value =>
        match value.string? with
        | some text => .ok (.text (capitalized text))
        | none => .error .badType

/-- The parts of a value that can be gone through: characters, items or keys. -/
def parts (value : Value) : Except Failure (List Value) :=
  match value with
  | .list items => .ok items
  | .tuple items => .ok items
  | .map entries => .ok (entries.map fun entry => .text entry.1.text)
  | value =>
      match value.string? with
      | some text => .ok (text.toList.map fun c => .text (String.ofList [c]))
      | none => .error .badType

/-- The text of a value that is used like a text. -/
def textOf (value : Value) : Except Failure String :=
  match value.string? with
  | some text => .ok text
  | none => .error .noOperation

/-- The parts of a value with a separator between them; nothing needs no separator. -/
def joined (items : Value) (separator : Except Failure Value) : Except Failure Value :=
  if !items.truthy then .ok (.text "")
  else do
    let separator ← textOf (← separator)
    return .text (separator.intercalate ((← parts items).map Value.display))

def size (items : Value) : Except Failure Value :=
  if !items.truthy then .ok (.int 0)
  else do return .int (← parts items).length

/-- Whether a container holds an item; nothing holds nothing. -/
def holds (container item : Value) : Except Failure Bool :=
  match container with
  | .null => .ok false
  | .list items => .ok (items.any item.same)
  | .tuple items => .ok (items.any item.same)
  | .map entries =>
      match item with
      | .list _ => .error .badType
      | .map _ => .error .badType
      | item =>
          .ok (entries.any fun entry =>
            match entry.1 with
            | .name text => item.same (.text text)
            | .other written => !item.isString && item.written == written)
  | container =>
      match container.string?, item.string? with
      | some text, some piece => .ok (containsText text piece)
      | _, _ => .error .badType

/-- The indent is a text, or a number of spaces. -/
def jsonText (value indent : Value) : Except Failure Value :=
  match indent with
  | .null => .ok (.text (Json.text value none))
  | indent =>
      match indent.string?, indent.int? with
      | some text, _ => .ok (.text (Json.text value (some text)))
      | none, some width => .ok (.text (Json.text value (some (Json.spaces width.toNat))))
      | none, none => .error .badType

/-- Lines of code, each one that is not blank moved to the right. -/
def indentLines (lines : List String) (spaces : Nat) : String :=
  "\n".intercalate (lines.map fun line =>
    if isBlankText line then "" else String.ofList (List.replicate spaces ' ') ++ line)

def indented (lines depth width : Value) : Except Failure Value := do
  let items ← if lines.truthy then parts lines else .ok []
  match depth.int?, width.int? with
  | some depth, some width =>
      return .text (indentLines (← items.mapM textOf) (width * depth).toNat)
  | _, _ => throw .badType

/-- Whether all operands count as true; those after the first that does not are not looked at. -/
def all : List Operand → Except Failure Bool
  | [] => .ok true
  | operand :: rest => do if (← operand.need).truthy then all rest else return false

def any : List Operand → Except Failure Bool
  | [] => .ok false
  | operand :: rest => do if (← operand.need).truthy then return true else any rest

/-- The indexed operand, or a value in its place when there are fewer operands. -/
def operandOr (operands : List Operand) (position : Nat) (default : Value) :
    Except Failure Value :=
  match operands[position]? with
  | some operand => operand.need
  | none => .ok default

def apply (helper : Helper) (operands : List Operand) : Except Failure Value :=
  match helper, operands with
  | camel, [x] => do return spelled camelCase (← x.need)
  | pascal, [x] => do return spelled pascalCase (← x.need)
  | snake, [x] => do return spelled snakeCase (← x.need)
  | capitalizeFirst, [x] => do capitalizedValue (← x.need)
  | join, x :: rest => do
      if rest.length ≤ 1 then
        joined (← x.need) (operandOr rest 0 (.text ", "))
      else throw .badType
  | length, [x] => do size (← x.need)
  | isEmpty, [x] => do return .bool !(← x.need).truthy
  | isNotEmpty, [x] => do return .bool (← x.need).truthy
  | allOf, operands => do return .bool (← all operands)
  | anyOf, operands => do return .bool (← any operands)
  | noneOf, operands => do return .bool !(← any operands)
  | eq, [x, y] => do return .bool ((← x.need).same (← y.need))
  | contains, [x, y] => do
      match ← x.need with
      | .null => return .bool false
      | container => return .bool (← holds container (← y.need))
  | json, x :: rest => do
      if rest.length ≤ 1 then jsonText (← x.need) (← operandOr rest 0 .null)
      else throw .badType
  | script, [.value x] => .ok (.text (Script.literal x))
  | script, [.undefined _] => .ok (.text "undefined")
  | lines, x :: rest => do
      if rest.length ≤ 2 then
        indented (← x.need) (← operandOr rest 0 (.int 1)) (← operandOr rest 1 (.int 2))
      else throw .badType
  | debug, [_] => .ok (.text "")
  | upper, [x] => do return .text (upperText (← x.need).display)
  | lower, [x] => do return .text (lowerText (← x.need).display)
  | trim, [x] => do return .text (trimmed (← x.need).display)
  | _, _ => .error .badType

end Helper

end ScreenFlow
