import ScreenFlow.Json.Writer
import ScreenFlow.Text.Class

/-!
Data as it is spelled in a JSON text and as literals of a unit text.  The two differ in the words for
nothing and for truth and in the spelling of strings.  A key may be spelled more than once in a map,
and a number with a point keeps the digits it is spelled with.
-/

namespace ScreenFlow

/-- A number with a point: the digits before it, at least one behind it, and perhaps a power of ten. -/
structure Decimal where
  isNegative : Bool := false
  whole : Nat
  tenth : Fin 10
  more : List (Fin 10) := []
  power : Option Int := none
  deriving DecidableEq, Repr

def digitChars (n : Nat) : List Char :=
  Nat.toDigits 10 n

def signedChars (isNegative : Bool) (chars : List Char) : List Char :=
  if isNegative then '-' :: chars else chars

def integerChars (n : Int) : List Char :=
  signedChars (n < 0) (digitChars n.natAbs)

namespace Decimal

def fraction (x : Decimal) : List (Fin 10) :=
  x.tenth :: x.more

def fractionChars (x : Decimal) : List Char :=
  x.fraction.map fun digit : Fin 10 => Nat.digitChar digit

def powerChars (x : Decimal) : List Char :=
  match x.power with
  | some power => 'e' :: integerChars power
  | none => []

/-- The number without its sign. -/
def sizeChars (x : Decimal) : List Char :=
  digitChars x.whole ++ '.' :: x.fractionChars ++ x.powerChars

/-- All digits as one whole number. -/
def digits (x : Decimal) : Nat :=
  x.fraction.foldl (fun value (digit : Fin 10) => value * 10 + digit) x.whole

/-- The power of ten that goes with all digits as one whole number. -/
def scale (x : Decimal) : Int :=
  x.power.getD 0 - x.fraction.length

def value (x : Decimal) : Binary64 :=
  .ofDecimal x.isNegative x.digits x.scale

end Decimal

inductive Data where
  | null
  | bool (value : Bool)
  | whole (value : Int)
  | decimal (value : Decimal)
  | text (value : String)
  | list (items : List Data)
  | map (entries : List (String × Data))
  deriving Inhabited

/-- How the data is spelled where two kinds of texts differ. -/
structure Spelling where
  null : List Char
  bool : Bool → List Char
  text : String → List Char

namespace Spelling

def json : Spelling where
  null := "null".toList
  bool value := (Json.boolText value).toList
  text value := (Json.quoted value).toList

def literal : Spelling where
  null := "None".toList
  bool value := (Value.writtenBool value).toList
  text value := (Value.writtenText value).toList

end Spelling

namespace Data

/-- What stands between an item and those behind it. -/
def separator (rest : List α) : List Char :=
  if rest.isEmpty then [] else [',', ' ']

mutual
def spelled (spelling : Spelling) : Data → List Char
  | null => spelling.null
  | bool value => spelling.bool value
  | whole value => integerChars value
  | decimal value => signedChars value.isNegative value.sizeChars
  | text value => spelling.text value
  | list items => '[' :: spelledItems spelling items ++ [']']
  | map entries => '\x7b' :: spelledEntries spelling entries ++ ['\x7d']

def spelledItems (spelling : Spelling) : List Data → List Char
  | [] => []
  | item :: rest => spelled spelling item ++ separator rest ++ spelledItems spelling rest

def spelledEntries (spelling : Spelling) : List (String × Data) → List Char
  | [] => []
  | (name, item) :: rest =>
      spelling.text name ++ ':' :: ' ' :: spelled spelling item ++ separator rest ++
        spelledEntries spelling rest
end

mutual
/-- What the data stands for; of several entries of one key the last counts. -/
def value : Data → Value
  | null => .null
  | bool value => .bool value
  | whole value => .int value
  | decimal value => .float value.value
  | text value => .text value
  | list items => .list (values items)
  | map entries => .map (Entries.ofPairs (entryValues entries))

def values : List Data → List Value
  | [] => []
  | item :: rest => item.value :: values rest

def entryValues : List (String × Data) → List (Key × Value)
  | [] => []
  | (name, item) :: rest => (.name name, item.value) :: entryValues rest
end

mutual
/-- How deep lists and maps stand in each other. -/
def depth : Data → Nat
  | list items => depths items + 1
  | map entries => entryDepths entries + 1
  | _ => 0

def depths : List Data → Nat
  | [] => 0
  | item :: rest => max item.depth (depths rest)

def entryDepths : List (String × Data) → Nat
  | [] => 0
  | (_, item) :: rest => max item.depth (entryDepths rest)
end

mutual
/-- Whether no whole number has too many digits to be read. -/
def isShort : Data → Bool
  | whole value => (digitChars value.natAbs).length ≤ Text.mostDigits
  | list items => areShort items
  | map entries => entriesAreShort entries
  | _ => true

def areShort : List Data → Bool
  | [] => true
  | item :: rest => item.isShort && areShort rest

def entriesAreShort : List (String × Data) → Bool
  | [] => true
  | (_, item) :: rest => item.isShort && entriesAreShort rest
end

/-- What holds of a list or a map when it holds of all that stands in it, holds of all data. -/
@[elab_as_elim]
theorem induct {P : Data → Prop} (null : P null) (bool : ∀ value, P (bool value))
    (whole : ∀ value, P (whole value)) (decimal : ∀ value, P (decimal value))
    (text : ∀ value, P (text value))
    (list : ∀ items, (∀ item ∈ items, P item) → P (list items))
    (map : ∀ entries, (∀ entry ∈ entries, P entry.2) → P (map entries)) (data : Data) : P data :=
  match data with
  | .null => null
  | .bool value => bool value
  | .whole value => whole value
  | .decimal value => decimal value
  | .text value => text value
  | .list items => list items fun item _ => induct null bool whole decimal text list map item
  | .map entries =>
      map entries fun entry _ => induct null bool whole decimal text list map entry.2
termination_by data
decreasing_by
  · have := List.sizeOf_lt_of_mem ‹_ ∈ items›
    simp
    omega
  · have hentry := List.sizeOf_lt_of_mem ‹_ ∈ entries›
    have hitem : sizeOf entry.2 < sizeOf entry := by
      obtain ⟨name, item⟩ := entry
      simp only [Prod.mk.sizeOf_spec]
      omega
    simp
    omega

end Data

end ScreenFlow
