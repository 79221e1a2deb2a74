import ScreenFlow.Number.Binary64
import ScreenFlow.UnitText.Expr
import ScreenFlow.Value.Written

/-!
Operators on values.  An operator that does not apply to its operands has no value.
-/

namespace ScreenFlow.UnitText

namespace Operation

/-- A number as a fraction; a truth value is zero or one. -/
def float? : Value → Option Binary64
  | .float x => some x
  | value => value.int?.map Binary64.ofInt

/-- The items of a sequence repeated; none when the count is not positive. -/
def repeated (count : Int) (items : List α) : List α :=
  (List.replicate count.toNat items).flatten

/-- The largest exponent of a whole power. -/
def mostPower : Int := 4096

def integers (op : Binary) (n m : Int) : Option Value :=
  match op with
  | .add => some (.int (n + m))
  | .sub => some (.int (n - m))
  | .mul => some (.int (n * m))
  | .div =>
      if m = 0 then none
      else some (.float (.ofRatio (decide (n < 0) != decide (m < 0)) n.natAbs m.natAbs))
  | .floorDiv => if m = 0 then none else some (.int (n.fdiv m))
  | .mod => if m = 0 then none else some (.int (n.fmod m))
  | .pow => if 0 ≤ m && m ≤ mostPower then some (.int (Int.pow n m.toNat)) else none
  | .shiftLeft =>
      if 0 ≤ m && m ≤ mostPower then some (.int (n * Int.ofNat (twoTo m.toNat))) else none
  | .shiftRight =>
      if 0 ≤ m && m ≤ mostPower then some (.int (n.fdiv (Int.ofNat (twoTo m.toNat)))) else none
  | _ => none

def floats (op : Binary) (x y : Binary64) : Option Value :=
  match op with
  | .add => (x.add? y).map Value.float
  | .sub => (x.add? y.neg).map Value.float
  | .mul => (x.mul? y).map Value.float
  | .div => (x.div? y).map Value.float
  | _ => none

def numbers (op : Binary) (first second : Value) : Option Value :=
  match first.int?, second.int? with
  | some n, some m => integers op n m
  | _, _ =>
      match float? first, float? second with
      | some x, some y => floats op x y
      | _, _ => none

/-- Logical operators on truth values, and joining maps. -/
def logical (op : Binary) (first second : Value) : Option Value :=
  match op, first, second with
  | .bitOr, .bool x, .bool y => some (.bool (x || y))
  | .bitAnd, .bool x, .bool y => some (.bool (x && y))
  | .bitXor, .bool x, .bool y => some (.bool (x != y))
  | .bitOr, .map entries, .map others =>
      some (.map (others.foldl (fun all entry => Entries.put all entry.1 entry.2) entries))
  | _, _, _ => none

def binary (op : Binary) (first second : Value) : Option Value :=
  match op, first, second with
  | .add, .text x, .text y => some (.text (x ++ y))
  | .add, .list xs, .list ys => some (.list (xs ++ ys))
  | .add, .tuple xs, .tuple ys => some (.tuple (xs ++ ys))
  | .mul, .text x, second =>
      second.int?.map fun n => .text (String.ofList (repeated n x.toList))
  | .mul, .list xs, second => second.int?.map fun n => .list (repeated n xs)
  | .mul, .tuple xs, second => second.int?.map fun n => .tuple (repeated n xs)
  | .mul, first, .text y =>
      first.int?.map fun n => .text (String.ofList (repeated n y.toList))
  | .mul, first, .list ys => first.int?.map fun n => .list (repeated n ys)
  | .mul, first, .tuple ys => first.int?.map fun n => .tuple (repeated n ys)
  | op, first, second => (numbers op first second).or (logical op first second)

def unary (op : Unary) (value : Value) : Option Value :=
  match op, value with
  | .not, value => some (.bool (!value.truthy))
  | .minus, .float x => some (.float x.neg)
  | .plus, .float x => some (.float x)
  | .minus, value => value.int?.map fun n => .int (-n)
  | .plus, value => value.int?.map Value.int
  | .invert, value => value.int?.map fun n => .int (-n - 1)

/-- Whether the first value comes before the second. -/
def before? (first second : Value) : Option Bool :=
  match first, second with
  | .text x, .text y => some (x < y)
  | first, second =>
      match first.int?, second.int? with
      | some n, some m => some (n < m)
      | _, _ =>
          match float? first, float? second with
          | some x, some y => some (x.lt y)
          | _, _ => none

/-- Whether a value is an item of another one, or a key of a map, or a part of a text. -/
def isIn? (value container : Value) : Option Bool :=
  match container with
  | .list items => some (items.any value.same)
  | .tuple items => some (items.any value.same)
  | .map entries =>
      value.string?.map fun name => Entries.hasKey entries name
  | .text whole => value.string?.map fun part => Text.holds part.toList whole.toList
  | _ => none

/-- Whether two values are the very same; only told of values that there is one of. -/
def isSame? (first second : Value) : Option Bool :=
  match first, second with
  | .null, .null => some true
  | .null, _ => some false
  | _, .null => some false
  | .bool x, .bool y => some (x == y)
  | _, _ => none

def compare (op : Comparison) (first second : Value) : Option Bool :=
  match op with
  | .eq => some (first.same second)
  | .ne => some (!first.same second)
  | .lt => before? first second
  | .gt => before? second first
  | .le => (before? first second).map (· || first.same second)
  | .ge => (before? second first).map (· || first.same second)
  | .isSame => isSame? first second
  | .isNot => (isSame? first second).map (!·)
  | .isIn => isIn? first second
  | .notIn => (isIn? first second).map (!·)

/-- The place of an item, counted from the end when it is negative. -/
def position? (length : Nat) (index : Int) : Option Nat :=
  let place := if index < 0 then index + length else index
  if 0 ≤ place && place < length then some place.toNat else none

/-- What stands at an index or under a key. -/
def item? (owner index : Value) : Option Value :=
  match owner with
  | .list items => do items[← position? items.length (← index.int?)]?
  | .tuple items => do items[← position? items.length (← index.int?)]?
  | .text whole => do
      let c ← whole.toList[← position? whole.length (← index.int?)]?
      return .text (String.ofList [c])
  | .map entries => do
      let found ← entries.find? fun entry => isKey entry.1 index
      return found.2
  | _ => none
where
  isKey (key : Key) (index : Value) : Bool :=
    match key, index.string? with
    | .name known, some wanted => known = wanted
    | .other known, none => known = index.written
    | _, _ => false

/-- The stretch of a sequence between two places, each counted from the end when it is negative. -/
def stretch (items : List α) (lower upper : Option Int) : List α :=
  let bound := fun (given : Option Int) (default : Nat) =>
    match given with
    | none => default
    | some n => if n < 0 then (n + items.length).toNat else min n.toNat items.length
  (items.take (bound upper items.length)).drop (bound lower 0)

end Operation

end ScreenFlow.UnitText
