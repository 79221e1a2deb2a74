import ScreenFlow.Failure
import ScreenFlow.Scope.Segment
import ScreenFlow.Text.Class

/-!
Selectors on assertion fields: `name[first]`, `name[last]`, `name[all]`, `name[any]`, `name[3]` and
a position taken from a variable.  A text whose bracket holds none of these is a field name.
-/

namespace ScreenFlow

/-- Which of the elements that a field finds is meant. -/
inductive Selection where
  | single
  | first
  | last
  | all
  | any
  | position (index : Nat)
  | fromVariable (name : String)
  deriving DecidableEq, Repr

namespace Selection

def name : Selection → String
  | single => "single"
  | first => "first"
  | last => "last"
  | all => "all"
  | any => "any"
  | position _ => "nth"
  | fromVariable _ => "nth"

/-- The index of a selection of one element by number. -/
def index? : Selection → Option Nat
  | first => some 0
  | position index => some index
  | _ => none

/-- A variable with an empty name names nothing. -/
def variableName? : Selection → Option String
  | fromVariable name => if name = "" then none else some name
  | _ => none

end Selection

structure Selector where
  field : String
  selection : Selection := .single
  deriving DecidableEq, Repr

namespace Selector

def isBracket (c : Char) : Bool :=
  c = '[' || c = ']'

/-- The text before the last bracket pair and the text in it, when the pair ends the text.  Before
it stands at least one character and no line end; in it at least one character and no bracket. -/
def cut? (text : List Char) : Option (List Char × List Char) :=
  match text.reverse with
  | ']' :: rest =>
      let between := rest.takeWhile fun c => !isBracket c
      match rest.dropWhile fun c => !isBracket c with
      | '[' :: before =>
          if between.isEmpty || before.isEmpty || before.contains '\n' then none
          else some (before.reverse, between.reverse)
      | _ => none
  | _ => none

def isWordOf (selector : List Char) (words : List String) : Bool :=
  words.contains (String.ofList (Text.lower selector))

/-- What a trimmed selector text selects.  A digit that spells no number is an error. -/
def selection? (selector : List Char) : Except Failure (Option Selection) :=
  if isWordOf selector ["0", "first"] then .ok (some .first)
  else if isWordOf selector ["last"] then .ok (some .last)
  else if isWordOf selector ["all"] then .ok (some .all)
  else if isWordOf selector ["any"] then .ok (some .any)
  else if Text.allDigits selector then
    match Text.wholeNumber? selector with
    | some index => .ok (some (.position index))
    | none => .error .badValue
  else .ok ((Segment.whole? selector).map fun name =>
    .fromVariable (String.ofList (Text.trim name)))

def parse (text : String) : Except Failure Selector :=
  let bare := Text.trim text.toList
  match cut? bare with
  | none => .ok ⟨String.ofList bare, .single⟩
  | some (field, selector) => do
      match ← selection? (Text.trim selector) with
      | some selection => return ⟨String.ofList (Text.trim field), selection⟩
      | none => return ⟨String.ofList bare, .single⟩

end Selector

end ScreenFlow
