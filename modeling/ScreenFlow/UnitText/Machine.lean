import ScreenFlow.Failure
import ScreenFlow.UnitText.Outline

/-!
The state of a run of a unit text: what every name stands for, and the classes that have been
defined.
-/

namespace ScreenFlow.UnitText

/-- What a function does when it is called: it names values one after the other, and the last one
is its result. -/
structure Recipe where
  steps : List (Expr × Expr)
  result : Expr

namespace Recipe

/-- The recipe that the statements of a function spell; a text in front of them says nothing. -/
def ofBody? : List Statement → Option Recipe
  | [.result (some result)] => some ⟨[], result⟩
  | .assign [target] value :: rest =>
      (ofBody? rest).map fun recipe => { recipe with steps := (target, value) :: recipe.steps }
  | .evaluate (.mk _ (.scalar _)) :: rest => ofBody? rest
  | _ => none

end Recipe

/-- What a name can stand for during a run. -/
inductive Datum where
  | value (value : Value)
  /-- A class, by its place in the order of definition. -/
  | unit (place : Nat)
  /-- A function that can be called: its source, its parameters, and the values of those that need
  not be given. -/
  | function (source : String) (parameters : List String) (defaults : List (String × Datum))
    (recipe : Recipe)
  /-- Something that is there to be gone through. -/
  | stream (kind written : String) (items : List Value)
  deriving Inhabited

abbrev Names := List (String × Datum)

structure UnitClass where
  name : String
  members : Names
  /-- The class itself and those it inherits from, in the order in which they are asked. -/
  lineage : List Nat
  deriving Inhabited

structure Machine where
  text : List Char
  lexemes : List Lexeme
  globals : Names := []
  /-- The names of the class that is being defined. -/
  members : Option Names := none
  /-- The names of the comprehension that is being collected. -/
  inner : Option Names := none
  units : List UnitClass := []

abbrev Run := StateT Machine Option

namespace Names

def put : Names → String → Datum → Names
  | [], name, datum => [(name, datum)]
  | (known, old) :: rest, name, datum =>
      if known = name then (known, datum) :: rest else (known, old) :: put rest name datum

end Names

namespace Run

/-- Functions that need no definition. -/
def builtInFunctions : List String := [
  "abs", "all", "any", "ascii", "bin", "callable", "chr", "dir", "divmod", "eval", "exec",
  "format", "getattr", "globals", "hasattr", "hash", "hex", "id", "input", "isinstance",
  "issubclass", "iter", "len", "locals", "max", "min", "next", "oct", "open", "ord", "pow", "print",
  "repr", "round", "setattr", "sorted", "sum", "vars"]

/-- Types that need no definition. -/
def builtInTypes : List String := [
  "bool", "bytearray", "bytes", "classmethod", "complex", "dict", "enumerate", "filter", "float",
  "frozenset", "int", "list", "map", "object", "property", "range", "reversed", "set", "slice",
  "staticmethod", "str", "super", "tuple", "type", "zip", "ArithmeticError", "AssertionError",
  "AttributeError", "BaseException", "Exception", "ImportError", "IndexError", "KeyError",
  "LookupError", "ModuleNotFoundError", "NameError", "NotImplementedError", "OSError",
  "RuntimeError", "StopIteration", "SyntaxError", "TypeError", "ValueError", "ZeroDivisionError"]

def isBuiltIn (name : String) : Bool :=
  builtInFunctions.contains name || builtInTypes.contains name

def lookup (name : String) : Run Datum := do
  let machine ← get
  let near := machine.inner.or machine.members
  match (near.bind (·.lookup name)).or (machine.globals.lookup name) with
  | some datum => return datum
  | none =>
      if isBuiltIn name then return .value (.callable name) else failure

def assignName (name : String) (datum : Datum) : Run Unit :=
  modify fun machine =>
    match machine.members with
    | some members => { machine with members := some (Names.put members name datum) }
    | none => { machine with globals := Names.put machine.globals name datum }

def bindInner (name : String) (datum : Datum) : Run Unit :=
  modify fun machine =>
    { machine with inner := some (Names.put (machine.inner.getD []) name datum) }

def unitAt (place : Nat) : Run UnitClass := do
  match (← get).units[place]? with
  | some found => return found
  | none => failure

/-- A datum as a value.  A class is something that can be called, known by its name. -/
def value : Datum → Run Value
  | .value value => return value
  | .unit place => do return .callable (← unitAt place).name
  | .function source .. => return .callable source
  | .stream kind written _ => return .other kind written

/-- A member of a class or of one it inherits from. -/
def member? (units : List UnitClass) (place : Nat) (name : String) : Option Datum :=
  ((units[place]?).map (·.lineage)).bind fun lineage =>
    lineage.findSome? fun ancestor =>
      (units[ancestor]?).bind fun found => found.members.lookup name

/-- The common order of several lineages: a class is taken when no lineage has it behind another
class. -/
def merge : Nat → List (List Nat) → Option (List Nat)
  | 0, _ => none
  | fuel + 1, lineages =>
      let lineages := lineages.filter (!·.isEmpty)
      if lineages.isEmpty then some []
      else do
        let next ← (lineages.filterMap List.head?).find? fun candidate =>
          !lineages.any fun lineage => (lineage.drop 1).contains candidate
        let rest := lineages.map fun lineage =>
          if lineage.head? = some next then lineage.drop 1 else lineage
        return next :: (← merge fuel rest)

def keyValue : Key → Value
  | .name text => .text text
  | .other "True" => .bool true
  | .other "False" => .bool false
  | .other "None" => .null
  | .other written =>
      match wholeNumber? written with
      | some n => .int n
      | none => .other "key" written

def iterate : Datum → Run (List Value)
  | .value value =>
      match value with
      | .list items => return items
      | .tuple items => return items
      | .text whole => return whole.toList.map fun c => .text (String.ofList [c])
      | .map entries => return entries.map fun entry => keyValue entry.1
      | _ => failure
  | .stream _ _ items => return items
  | .unit _ => failure
  | .function .. => failure

mutual
/-- Whether a value can be a key. -/
def isHashable : Value → Bool
  | .list _ => false
  | .map _ => false
  | .other typeName _ => typeName != "set"
  | .tuple items => areHashable items
  | _ => true

def areHashable : List Value → Bool
  | [] => true
  | item :: items => isHashable item && areHashable items
end

def keyOf (value : Value) : Run Key :=
  if !isHashable value then failure
  else
    match value.string? with
    | some name => return .name name
    | none => return .other value.written

/-- Equal numbers are the same key, whatever their form. -/
def sameKey (first second : Key) : Bool :=
  first = second ||
    match first, second with
    | .other x, .other y => plain x = plain y
    | _, _ => false
where
  plain (written : String) : String :=
    if written = "True" then "1"
    else if written = "False" then "0"
    else if written.endsWith ".0" then String.ofList (written.toList.dropLast.dropLast)
    else written

def putKey (entries : Entries) (key : Key) (value : Value) : Entries :=
  match entries.find? fun entry => sameKey entry.1 key with
  | some (known, _) => Entries.put entries known value
  | none => entries ++ [(key, value)]

/-- The items of a set: each value once. -/
def distinct (items : List Value) : List Value :=
  items.foldl (fun kept item => if kept.any item.same then kept else kept ++ [item]) []

def setOf (items : List Value) : Run Value := do
  if !areHashable items then failure
  let kept := distinct items
  return .other "set"
    (if kept.isEmpty then "set()"
     else "\x7b" ++ commaSeparated (kept.map Value.written) ++ "\x7d")

def fromOption : Option α → Run α
  | some a => return a
  | none => failure

end Run

end ScreenFlow.UnitText
