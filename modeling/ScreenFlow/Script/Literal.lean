import ScreenFlow.Json.Writer
import ScreenFlow.Script.Quoted

/-!
Values as literals of the generated script.  What has no literal, a function or a value that could
not be computed, is `undefined`.
-/

namespace ScreenFlow.Script

/-- An object literal on one line, or empty braces. -/
def braced (entries : List String) : String :=
  if entries.isEmpty then "\x7b\x7d" else "\x7b " ++ ", ".intercalate entries ++ " \x7d"

def bracketed (items : List String) : String :=
  "[" ++ ", ".intercalate items ++ "]"

def boolLiteral (value : Bool) : String :=
  if value then "true" else "false"

/-- A placeholder marker counts as a value that could not be computed. -/
def textLiteral (text : String) : String :=
  if (Placeholder.ofMarker? text).isSome then "undefined" else quote text

mutual
def literal : Value → String
  | .null => "null"
  | .bool value => boolLiteral value
  | .int value => toString value
  | .float value => Json.floatText value
  | .text value => textLiteral value
  | .computed .. => "undefined"
  | .list items => bracketed (literals items)
  | .tuple items => bracketed (literals items)
  | .map entries => braced (entryLiterals entries)
  | .callable _ => "undefined"
  | .other _ written => quote written

def literals : List Value → List String
  | [] => []
  | item :: items => literal item :: literals items

def entryLiterals : List (Key × Value) → List String
  | [] => []
  | (name, value) :: rest => (key name.text ++ ": " ++ literal value) :: entryLiterals rest
end

theorem literals_eq_map (items : List Value) : literals items = items.map literal := by
  induction items with
  | nil => rfl
  | cons item items ih => simp [literals, ih]

theorem entryLiterals_eq_map (entries : Entries) :
    entryLiterals entries =
      entries.map fun entry => key entry.1.text ++ ": " ++ literal entry.2 := by
  induction entries with
  | nil => rfl
  | cons entry rest ih => simp [entryLiterals, ih]

end ScreenFlow.Script
