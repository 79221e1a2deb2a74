import ScreenFlow.Number.Binary64
import ScreenFlow.Text.Pieces

/-!
Free-form data.  Units, configuration and index files are made of it, and the parts of a screen
that the schema leaves open stay in this form.  Maps keep the order in which their keys were first
written.

A value that could not be computed from the text of a unit is `computed`: it counts as the string of
its marker and remembers the source text it stands for.
-/

namespace ScreenFlow

/-- What a computed expression of a unit text looked like. -/
inductive Placeholder where
  | function
  | call
  | template
  | expression
  deriving DecidableEq, Repr, Inhabited

namespace Placeholder

def marker : Placeholder → String
  | function => "<function>"
  | call => "<call>"
  | template => "<template>"
  | expression => "<expression>"

def all : List Placeholder :=
  [function, call, template, expression]

def ofMarker? (text : String) : Option Placeholder :=
  all.find? (·.marker == text)

theorem mem_all (kind : Placeholder) : kind ∈ all := by
  cases kind <;> simp [all]

theorem marker_injective {first second : Placeholder} (heq : first.marker = second.marker) :
    first = second := by
  cases first <;> cases second <;> first | rfl | exact absurd heq (by decide)

end Placeholder

/-- A map key.  A key that is not a string is known by the way it is written. -/
inductive Key where
  | name (text : String)
  | other (written : String)
  deriving DecidableEq, Repr, Inhabited

def Key.text : Key → String
  | .name text => text
  | .other written => written

def Key.isName : Key → Bool
  | .name _ => true
  | .other _ => false

inductive Value where
  | null
  | bool (value : Bool)
  | int (value : Int)
  | float (value : Binary64)
  | text (value : String)
  | computed (kind : Placeholder) (source : String)
  | list (items : List Value)
  | tuple (items : List Value)
  | map (entries : List (Key × Value))
  | callable (source : String)
  | other (typeName written : String)
  deriving Repr, Inhabited

abbrev Entries := List (Key × Value)

namespace Entries

def get? (entries : Entries) (key : String) : Option Value :=
  (entries.find? fun entry => entry.1 == .name key).map (·.2)

def hasKey (entries : Entries) (key : String) : Bool :=
  entries.any fun entry => entry.1 == .name key

/-- Writes an entry: a key that is already there keeps its place and takes the new value. -/
def put : Entries → Key → Value → Entries
  | [], key, value => [(key, value)]
  | (k, v) :: rest, key, value =>
      if k = key then (k, value) :: rest else (k, v) :: put rest key value

/-- The map in which the last entry of each key wins, at the place of the first. -/
def ofPairs (pairs : List (Key × Value)) : Entries :=
  pairs.foldl (fun entries pair => entries.put pair.1 pair.2) []

theorem get?_put_self (entries : Entries) (key : String) (value : Value) :
    (entries.put (.name key) value).get? key = some value := by
  induction entries with
  | nil => simp [put, get?]
  | cons entry rest ih =>
      obtain ⟨k, v⟩ := entry
      by_cases h : k = .name key
      · simp [put, get?, h]
      · have hne : (k == Key.name key) = false := by simpa using h
        simp only [put, h, if_false, get?, List.find?_cons, hne] at ih ⊢
        exact ih

end Entries

namespace Value

/-- The string a value counts as, if it counts as one. -/
def string? : Value → Option String
  | .text value => some value
  | .computed kind _ => some kind.marker
  | _ => none

def isString (value : Value) : Bool :=
  value.string?.isSome

def isMap : Value → Bool
  | .map _ => true
  | _ => false

/-- The value of a string, or of the marker of a computed value, that is a placeholder marker. -/
def isPlaceholder (value : Value) : Bool :=
  match value.string? with
  | some marker => (Placeholder.ofMarker? marker).isSome
  | none => false

/-- A sequence is a list or a tuple. -/
def items? : Value → Option (List Value)
  | .list items => some items
  | .tuple items => some items
  | _ => none

def entries? : Value → Option Entries
  | .map entries => some entries
  | _ => none

/-- Whether a value counts as true in a condition: zero, and everything empty, does not. -/
def truthy : Value → Bool
  | .null => false
  | .bool value => value
  | .int value => value != 0
  | .float value => !value.isZero
  | .text value => value != ""
  | .computed .. => true
  | .list items => !items.isEmpty
  | .tuple items => !items.isEmpty
  | .map entries => !entries.isEmpty
  | .callable _ => true
  | .other .. => true

/-- A missing value is null. -/
def orNull : Option Value → Value
  | some value => value
  | none => .null

/-- The number a value counts as; a truth value counts as 0 or 1. -/
def int? : Value → Option Int
  | .int value => some value
  | .bool value => some (if value then 1 else 0)
  | _ => none

/-- Equality of values that are not containers.  Numbers are compared by size, whatever their
form. -/
def sameScalar (first second : Value) : Bool :=
  match first, second with
  | .null, .null => true
  | .float x, .float y => x.same y
  | .float x, second => (second.int?.map x.sameInt).getD false
  | first, .float x => (first.int?.map x.sameInt).getD false
  | .callable x, .callable y => x == y
  | .other kind x, .other kind' y => kind == kind' && x == y
  | first, second =>
      match first.int?, second.int? with
      | some n, some m => n == m
      | _, _ =>
          match first.string?, second.string? with
          | some x, some y => x == y
          | _, _ => false

mutual
/-- Equality of values: maps are equal when they have equal values for the same keys, in any
order. -/
def same : Value → Value → Bool
  | .list items, .list others => sameItems items others
  | .tuple items, .tuple others => sameItems items others
  | .map entries, .map others =>
      entries.length == others.length && sameEntries entries others
  | .list _, _ => false
  | .tuple _, _ => false
  | .map _, _ => false
  | first, second => sameScalar first second

def sameItems : List Value → List Value → Bool
  | [], [] => true
  | item :: items, partner :: others => same item partner && sameItems items others
  | _, _ => false

def sameEntries : List (Key × Value) → Entries → Bool
  | [], _ => true
  | (key, value) :: rest, others =>
      ((others.find? fun entry => entry.1 == key).map fun entry => same value entry.2).getD false
        && sameEntries rest others
end

/-- A null or placeholder counts as no items, a sequence as its own, and anything else as one. -/
def listOrEmpty (value : Value) : List Value :=
  match value with
  | .null => []
  | .list items => items
  | .tuple items => items
  | value => if value.isPlaceholder then [] else [value]

/-- The maps among the items. -/
def mapsOnly (value : Value) : List Value :=
  value.listOrEmpty.filter isMap

@[simp] theorem string?_text (value : String) : (Value.text value).string? = some value := rfl

@[simp] theorem string?_computed (kind : Placeholder) (source : String) :
    (Value.computed kind source).string? = some kind.marker := rfl

@[simp] theorem isPlaceholder_computed (kind : Placeholder) (source : String) :
    (Value.computed kind source).isPlaceholder = true := by
  cases kind <;> rfl

theorem isPlaceholder_iff {value : Value} :
    value.isPlaceholder = true ↔ ∃ kind : Placeholder, value.string? = some kind.marker := by
  unfold isPlaceholder
  cases hstring : value.string? with
  | none => simp
  | some marker =>
      simp only [Option.some.injEq, Placeholder.ofMarker?, List.find?_isSome]
      constructor
      · rintro ⟨kind, -, heq⟩
        exact ⟨kind, (beq_iff_eq.mp heq).symm⟩
      · rintro ⟨kind, heq⟩
        exact ⟨kind, kind.mem_all, by simp [heq]⟩

end Value

end ScreenFlow
