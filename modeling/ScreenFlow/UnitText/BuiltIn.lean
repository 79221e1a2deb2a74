import ScreenFlow.Text.Blank
import ScreenFlow.Text.Case
import ScreenFlow.UnitText.Machine
import ScreenFlow.UnitText.Operation

/-!
Functions that need no definition, and functions that belong to texts, maps and lists.
-/

namespace ScreenFlow.UnitText.Run

/-- Values whose text does not depend on where they are kept. -/
def hasText : Value → Bool
  | .callable _ => false
  | _ => true

def display (value : Value) : Run String :=
  if hasText value then return value.display else failure

/-- A field of a text template, without a format. -/
def fieldText (label : String) (conversion : Option Char) (value : Value) : Run String := do
  if !hasText value then failure
  match conversion with
  | some 'r' => return label ++ value.written
  | some 's' => return label ++ value.display
  | some _ => failure
  | none => return label ++ (if label = "" then value.display else value.written)

def rangeItems (start stop step : Int) : List Value :=
  if step = 0 then []
  else
    let size := if 0 < step then (stop - start + step - 1).fdiv step
      else (start - stop - step - 1).fdiv (-step)
    (List.range size.toNat).map fun (n : Nat) => .int (start + step * n)

def range (bounds : List Value) : Run Datum := do
  let found := bounds.filterMap fun
    | .int n => some n
    | .bool b => some (if b then 1 else 0)
    | _ => none
  if found.length != bounds.length then failure
  let (start, stop, step) : Int × Int × Int ←
    match found with
    | [stop] => pure (0, stop, 1)
    | [start, stop] => pure (start, stop, 1)
    | [start, stop, step] => if step = 0 then failure else pure (start, stop, step)
    | _ => failure
  let written := "range(" ++ toString start ++ ", " ++ toString stop ++
    (if step = 1 then "" else ", " ++ toString step) ++ ")"
  return .stream "range" written (rangeItems start stop step)

/-- Sorts values that can be compared with each other. -/
def sortValues (items : List Value) : Run (List Value) := do
  let all := items.flatMap fun x => items.map fun y => Operation.before? x y
  if 1 < items.length && all.any (·.isNone) then failure
  return items.mergeSort fun x y => !(Operation.before? y x).getD false

/-- The least of some values, the first of several that are equal. -/
def least (items : List Value) : Run Datum := do
  match ← sortValues items with
  | item :: _ => return .value item
  | [] => failure

/-- The greatest of some values, the first of several that are equal. -/
def greatest (items : List Value) : Run Datum := do
  match (← sortValues items.reverse).getLast? with
  | some item => return .value item
  | none => failure

/-- Entries from a map or from pairs. -/
def entriesOf (datum : Datum) : Run Entries := do
  match datum with
  | .value (.map entries) => return entries
  | datum =>
      let pairs ← iterate datum
      pairs.foldlM
        (fun entries pair => do
          match pair with
          | .tuple [key, item] => return putKey entries (← keyOf key) item
          | .list [key, item] => return putKey entries (← keyOf key) item
          | _ => failure)
        []

def wholeNumber (text : String) : Run Value :=
  match wholeNumber? (trimmed text) with
  | some n => return .int n
  | none => failure

/-- A call of a function that needs no definition. -/
def callBuiltIn (name : String) (given : List Datum) (named : Names) : Run Datum := do
  if name = "dict" then
    let start ←
      match given with
      | [] => pure []
      | [datum] => entriesOf datum
      | _ => failure
    let entries ← named.foldlM
      (fun entries entry => do return putKey entries (.name entry.1) (← value entry.2)) start
    return .value (.map entries)
  else if name = "sorted" then
    match given, named with
    | [datum], [] => return .value (.list (← sortValues (← iterate datum)))
    | _, _ => failure
  else if !named.isEmpty then failure
  else
    match name, given with
    | "len", [datum] => return .value (.int (← iterate datum).length)
    | "str", [] => return .value (.text "")
    | "str", [datum] => return .value (.text (← display (← value datum)))
    | "repr", [datum] => return .value (.text (← value datum).written)
    | "bool", [] => return .value (.bool false)
    | "bool", [datum] => return .value (.bool (← value datum).truthy)
    | "int", [] => return .value (.int 0)
    | "int", [datum] => do
        match ← value datum with
        | .text text => return .value (← wholeNumber text)
        | .float x =>
            match x.truncate? with
            | some n => return .value (.int n)
            | none => failure
        | other =>
            match other.int? with
            | some n => return .value (.int n)
            | none => failure
    | "float", [datum] => do
        match Operation.float? (← value datum) with
        | some x => return .value (.float x)
        | none => failure
    | "abs", [datum] => do
        match ← value datum with
        | .float (.finite _ mantissa exponent) =>
            return .value (.float (.finite false mantissa exponent))
        | other =>
            match other.int? with
            | some n => return .value (.int n.natAbs)
            | none => failure
    | "list", [] => return .value (.list [])
    | "list", [datum] => return .value (.list (← iterate datum))
    | "tuple", [] => return .value (.tuple [])
    | "tuple", [datum] => return .value (.tuple (← iterate datum))
    | "set", [] => return .value (← setOf [])
    | "set", [datum] => return .value (← setOf (← iterate datum))
    | "range", bounds => range (← bounds.mapM value)
    | "sum", [datum] => do
        let total ← (← iterate datum).foldlM
          (fun total item =>
            match Operation.numbers .add total item with
            | some next => pure next
            | none => failure)
          (Value.int 0)
        return .value total
    | "any", [datum] => return .value (.bool ((← iterate datum).any Value.truthy))
    | "all", [datum] => return .value (.bool ((← iterate datum).all Value.truthy))
    | "min", [datum] => least (← iterate datum)
    | "min", first :: second :: rest => do
        least (← (first :: second :: rest).mapM value)
    | "max", [datum] => greatest (← iterate datum)
    | "max", first :: second :: rest => do
        greatest (← (first :: second :: rest).mapM value)
    | "reversed", [datum] =>
        return .stream "list_reverseiterator" "" (← iterate datum).reverse
    | "enumerate", [datum] =>
        return .stream "enumerate" ""
          ((← iterate datum).zipIdx.map fun item => .tuple [.int item.2, item.1])
    | "zip", [first, second] =>
        return .stream "zip" ""
          (((← iterate first).zip (← iterate second)).map fun pair => .tuple [pair.1, pair.2])
    | "print", _ => return .value .null
    | _, _ => failure

/-- Replaces every occurrence of a part that is not empty. -/
def replaceAll (part replacement : List Char) : Nat → List Char → List Char
  | 0, text => text
  | _, [] => []
  | fuel + 1, c :: rest =>
      if part.isPrefixOf (c :: rest) then
        replacement ++ replaceAll part replacement fuel ((c :: rest).drop part.length)
      else c :: replaceAll part replacement fuel rest

def textMethod (text : String) (name : String) (given : List Value) : Run Datum := do
  match name, given with
  | "upper", [] => return .value (.text (upperText text))
  | "lower", [] => return .value (.text (lowerText text))
  | "strip", [] => return .value (.text (trimmed text))
  | "startswith", [.text start] => return .value (.bool (startsWith text start))
  | "endswith", [.text ending] => return .value (.bool (endsWith text ending))
  | "replace", [.text part, .text replacement] =>
      if part = "" then failure
      else
        return .value (.text (String.ofList
          (replaceAll part.toList replacement.toList (text.length + 1) text.toList)))
  | "split", [] =>
      return .value (.list ((Text.splitRuns Text.isBlank text.toList).map fun piece =>
        .text (String.ofList piece)))
  | "split", [.text separator] =>
      match separator.toList with
      | [c] =>
          return .value (.list ((Text.splitOn c text.toList).map fun piece =>
            .text (String.ofList piece)))
      | _ => failure
  | "join", [items] => do
      let pieces ← iterate (.value items)
      let texts := pieces.filterMap Value.string?
      if texts.length != pieces.length then failure
      return .value (.text (text.intercalate texts))
  | _, _ => failure

def mapMethod (entries : Entries) (name : String) (given : List Value) : Run Datum := do
  let items := entries.map fun entry => Value.tuple [keyValue entry.1, entry.2]
  match name, given with
  | "get", [key] => return .value ((Operation.item? (.map entries) key).getD .null)
  | "get", [key, default] => return .value ((Operation.item? (.map entries) key).getD default)
  | "copy", [] => return .value (.map entries)
  | "keys", [] => return .stream "dict_keys" "" (entries.map fun entry => keyValue entry.1)
  | "values", [] => return .stream "dict_values" "" (entries.map (·.2))
  | "items", [] => return .stream "dict_items" "" items
  | _, _ => failure

/-- A call of a function that belongs to a value. -/
def callMethod (owner : Value) (name : String) (given : List Value) : Run Datum := do
  match owner with
  | .text text => textMethod text name given
  | .map entries => mapMethod entries name given
  | .list items =>
      match name, given with
      | "copy", [] => return .value (.list items)
      | _, _ => failure
  | _ => failure

end ScreenFlow.UnitText.Run
