import ScreenFlow.Text.Case
import ScreenFlow.Value

/-!
Reading records out of free-form data.  A reading does not stop at the first unsuitable value: the
issues of all fields are collected in the order in which the fields are read.  A field may be given
under its long name or under the one the editor writes; the editor's name wins.
-/

namespace ScreenFlow

/-- One step of the way from a value to a part of it. -/
inductive Place where
  | key (name : String)
  | index (position : Int)
  deriving DecidableEq, Repr

/-- What makes a value unsuitable. -/
inductive Fault where
  | missing
  | notString
  | notBool
  | unreadableBool
  | notNumber
  | notList
  | notMap
  | notRecord
  | unreadable
  | notFieldName
  deriving DecidableEq, Repr

structure Issue where
  path : List Place
  fault : Fault
  deriving DecidableEq, Repr

/-- The outcome of reading: a value, or the issues found, or a number too large to be cut to a
whole one, which ends the reading at once. -/
inductive Reading (α : Type) where
  | value (result : α)
  | issues (found : List Issue)
  | overflow

namespace Reading

def map (f : α → β) : Reading α → Reading β
  | value a => value (f a)
  | issues found => issues found
  | overflow => overflow

/-- Reads two parts and keeps the issues of both. -/
def both : Reading α → Reading β → Reading (α × β)
  | overflow, _ => overflow
  | _, overflow => overflow
  | value a, value b => value (a, b)
  | value _, issues found => issues found
  | issues found, value _ => issues found
  | issues first, issues second => issues (first ++ second)

def seq (f : Reading (α → β)) (a : Unit → Reading α) : Reading β :=
  (both f (a ())).map fun pair => pair.1 pair.2

instance : Applicative Reading where
  pure := value
  map := map
  seq := seq

/-- The issues of a part, told from the whole. -/
def inside (place : Place) : Reading α → Reading α
  | issues found => issues (found.map fun issue => { issue with path := place :: issue.path })
  | reading => reading

def fault (kind : Fault) : Reading α :=
  issues [⟨[], kind⟩]

/-- Reads every item of a list. -/
def each (read : Value → Reading α) : List Value → Reading (List α) :=
  go 0
where
  go (position : Nat) : List Value → Reading (List α)
    | [] => value []
    | item :: items =>
        (both ((read item).inside (.index position)) (go (position + 1) items)).map fun pair =>
          pair.1 :: pair.2

def result? : Reading α → Option α
  | value a => some a
  | _ => none

@[simp] theorem map_value (f : α → β) (a : α) : (value a).map f = value (f a) := rfl

theorem both_eq_value_iff {first : Reading α} {second : Reading β} {pair : α × β} :
    both first second = value pair ↔ first = value pair.1 ∧ second = value pair.2 := by
  obtain ⟨a, b⟩ := pair
  cases first <;> cases second <;> simp [both]

end Reading

/-- A whole number in decimal, possibly signed. -/
def wholeNumber? (text : String) : Option Int :=
  match text.toList with
  | '-' :: digits => (decimal? digits).map fun n => -(n : Int)
  | digits => (decimal? digits).map Int.ofNat
where
  decimal? (digits : List Char) : Option Nat :=
    if digits.isEmpty then none
    else
      digits.foldl
        (fun value c => do
          let value ← value
          if c.isDigit then return value * 10 + (c.toNat - '0'.toNat) else none)
        (some 0)

/-- A key that is a whole number is a position; any other is a name. -/
def Key.place : Key → Place
  | .name text => .key text
  | .other "True" => .index 1
  | .other "False" => .index 0
  | .other written => ((wholeNumber? written).map Place.index).getD (.key written)

namespace Schema

def string (value : Value) : Reading String :=
  match value.string? with
  | some text => .value text
  | none => .fault .notString

def optionalString (value : Value) : Reading (Option String) :=
  match value with
  | .null => .value none
  | value => (string value).map some

def any (value : Value) : Reading Value :=
  .value value

def boolOfWord? (word : String) : Option Bool :=
  if ["1", "true", "t", "yes", "y", "on"].contains word then some true
  else if ["0", "false", "f", "no", "n", "off"].contains word then some false
  else none

/-- Truth values, zero and one, and the usual words for yes and no. -/
def bool (value : Value) : Reading Bool :=
  match value with
  | .bool b => .value b
  | .int 0 => .value false
  | .int 1 => .value true
  | .int _ => .fault .unreadableBool
  | .float x =>
      if x.sameInt 0 then .value false
      else if x.sameInt 1 then .value true
      else .fault .notBool
  | value =>
      match value.string? with
      | some text =>
          match boolOfWord? (lowerText text) with
          | some b => .value b
          | none => .fault .unreadableBool
      | none => .fault .notBool

def list (read : Value → Reading α) (value : Value) : Reading (List α) :=
  match value.items? with
  | some items => Reading.each read items
  | none => .fault .notList

def entryOf (read : Value → Reading α) (key : Key) (value : Value) : Reading (String × α) :=
  let name : Reading String :=
    match key with
    | .name text => .value text
    | .other _ => .issues [⟨[key.place, .key "[key]"], .notString⟩]
  Reading.both name ((read value).inside key.place)

/-- A map from names. -/
def mapOf (read : Value → Reading α) (value : Value) : Reading (List (String × α)) :=
  match value with
  | .map entries => go entries
  | _ => .fault .notMap
where
  go : Entries → Reading (List (String × α))
    | [] => .value []
    | (key, value) :: rest =>
        (Reading.both (entryOf read key value) (go rest)).map fun pair => pair.1 :: pair.2

def namedValues (value : Value) : Reading (List (String × Value)) :=
  mapOf any value

/-- A record is read from a map. -/
def record (read : Entries → Reading α) (value : Value) : Reading α :=
  match value with
  | .map entries => read entries
  | _ => .fault .notRecord

/-- The two names of a field. -/
structure Name where
  editor : String
  long : String

def Name.same (name : String) : Name := ⟨name, name⟩

/-- The name a field is given under, and its value. -/
def given? (entries : Entries) (name : Name) : Option (String × Value) :=
  match entries.get? name.editor with
  | some value => some (name.editor, value)
  | none => (entries.get? name.long).map (name.long, ·)

def required (entries : Entries) (name : Name) (read : Value → Reading α) : Reading α :=
  match given? entries name with
  | some (used, value) => (read value).inside (.key used)
  | none => .issues [⟨[.key name.editor], .missing⟩]

def optional (entries : Entries) (name : Name) (default : α) (read : Value → Reading α) :
    Reading α :=
  match given? entries name with
  | some (used, value) => (read value).inside (.key used)
  | none => .value default

/-- The entries that no field has taken. -/
def spare (entries : Entries) (names : List Name) : Entries :=
  let taken := names.filterMap fun name => (given? entries name).map (·.1)
  entries.filter fun entry => !(entry.1.isName && taken.contains entry.1.text)

/-- An open record has only named entries. -/
def onlyNames (entries : Entries) : Reading Unit :=
  match entries.filter fun entry => !entry.1.isName with
  | [] => .value ()
  | strange => .issues (strange.map fun entry => ⟨[entry.1.place], .notFieldName⟩)

/-- A null or placeholder in place of a string. -/
def stringOrNone (value : Value) : Reading (Option String) :=
  if value.isPlaceholder then .value none else optionalString value

def listOrEmpty (read : Value → Reading α) (value : Value) : Reading (List α) :=
  Reading.each read value.listOrEmpty

def recordsOnly (read : Value → Reading α) (value : Value) : Reading (List α) :=
  Reading.each read value.mapsOnly

end Schema

end ScreenFlow
