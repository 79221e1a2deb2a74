import ScreenFlow.Entry.Pattern
import ScreenFlow.Script.Literal
import ScreenFlow.Text.Case
import ScreenFlow.Value.Written

/-!
The entry of a state: the fields it assigns, and its text.  An entry may be the mapping itself, an
action that carries one, or a list in which the first mapping found counts.

The change that entering a state makes to the test data: one expression for each field of the
entry, the status first.  What the entry computes is taken from the options of the generated test
when it reads the event.
-/

namespace ScreenFlow

structure DeltaField where
  name : String
  value : String
  deriving DecidableEq, Repr

namespace Entry

def assignKind : Value := .text "xstate.assign"

/-- The mapping of a single action.  An assign action without a mapping has none. -/
def ofMap (entries : Entries) : Option Entries :=
  match Entries.get? entries "assignment" with
  | some (.map assignment) => some assignment
  | _ =>
      if (Value.orNull (Entries.get? entries "type")).same assignKind then none else some entries

mutual
def assignment? : Value → Option Entries
  | .list items => firstAssignment? items
  | .tuple items => firstAssignment? items
  | .map entries => ofMap entries
  | _ => none

def firstAssignment? : List Value → Option Entries
  | [] => none
  | item :: rest =>
      match assignment? item with
      | some found => some found
      | none => firstAssignment? rest
end

/-- The source text of what was computed, the spelling of anything else. -/
def valueText : Value → String
  | .computed _ source => source
  | .callable source => source
  | value => value.written

def text (entry : Value) : String :=
  match assignment? entry with
  | some assignment =>
      "\n".intercalate (assignment.map fun field => field.1.text ++ ": " ++ valueText field.2)
  | none =>
      match entry with
      | .null => ""
      | entry => valueText entry

/-- The singular of a collection name, as far as an `s` at the end shows it. -/
def singular (plural : List Char) : List Char :=
  if plural.getLast? = some 's' then plural.dropLast else plural

/-- The entity named in the text of an entry by a collection of the context. -/
def entityInText? (entry : Value) : Option String :=
  ((searchAll contextCollection? 0 (text entry).toList).find? (· != "get".toList)).map
    fun plural => String.ofList (singular plural)

def entityTokens : List String := ["Booking", "User", "Event"]

/-- The declared entity, else the one the entry works on, else the one in the class name. -/
def entityName (declared : Option String) (entry : Value) (className : String) : String :=
  match declared.filter (· != "") with
  | some entity => entity
  | none =>
      match entityInText? entry with
      | some entity => entity
      | none =>
          match entityTokens.find? (containsText className) with
          | some token => lowerText token
          | none => "entity"

def hasEntityLogic (entry : Value) : Bool :=
  worksOnElements (text entry)

/-- A field name without the entity in front of it. -/
def fieldName (name entity : String) : String :=
  match Text.cutFirst? '.' name.toList with
  | none => name
  | some (front, rest) =>
      let front := lowerText (String.ofList front)
      let entity := lowerText entity
      if front = entity || front = entity ++ "s" then String.ofList rest else name

def isTimeLike (name : String) : Bool :=
  endsWith name "At" || endsWith name "Time"

/-- The expression for a computed field. -/
def computedValue (name source targetStatus : String) : String :=
  match search eventField? source.toList with
  | some field =>
      let option := "options." ++ String.ofList field
      if isTimeLike name then option ++ " || now" else option
  | none =>
      if isTimeLike name then "now"
      else if name = "status" then Script.quote targetStatus
      else "undefined"

def deltaValue (name : String) (value : Value) (targetStatus : String) : String :=
  match value with
  | .text plain =>
      if value.isPlaceholder then computedValue name (valueText value) targetStatus
      else Script.quote plain
  | .computed .. => computedValue name (valueText value) targetStatus
  | .callable _ => computedValue name (valueText value) targetStatus
  | .other .. => "undefined"
  | value => Script.literal value

def rawFields (entry : Value) (targetStatus entity : String) : List DeltaField :=
  ((assignment? entry).getD []).map fun field =>
    let name := fieldName field.1.text entity
    ⟨name, deltaValue name field.2 targetStatus⟩

/-- The first field of each name. -/
def firstOfName (seen : List String) : List DeltaField → List DeltaField
  | [] => []
  | field :: rest =>
      if seen.contains field.name then firstOfName seen rest
      else field :: firstOfName (field.name :: seen) rest

def isStatus (field : DeltaField) : Bool :=
  field.name == "status"

/-- The fields of the entry under their own names, each once, with the status in front. -/
def deltaFields (entry : Value) (targetStatus entity : String) : List DeltaField :=
  let fields := firstOfName [] (rawFields entry targetStatus entity)
  let status := fields.filter isStatus
  (if status.isEmpty then [⟨"status", Script.quote targetStatus⟩] else status) ++
    fields.filter fun field => !isStatus field

end Entry

end ScreenFlow
