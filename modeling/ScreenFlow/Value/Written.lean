import ScreenFlow.Number.Shortest
import ScreenFlow.Text.Class
import ScreenFlow.Value

/-!
The spelling of values in labels and in the text of an entry.  A string inside another value stands
in quotes, a string by itself does not.
-/

namespace ScreenFlow.Value

def hexDigits (width n : Nat) : List Char :=
  let digits := Nat.toDigits 16 n
  List.replicate (width - digits.length) '0' ++ digits

def escapedByCode (c : Char) : List Char :=
  let n := c.toNat
  if n < 0x100 then '\\' :: 'x' :: hexDigits 2 n
  else if n < 0x10000 then '\\' :: 'u' :: hexDigits 4 n
  else '\\' :: 'U' :: hexDigits 8 n

def writtenChar (quote c : Char) : List Char :=
  if c = quote || c = '\\' then ['\\', c]
  else if c = '\n' then ['\\', 'n']
  else if c = '\r' then ['\\', 'r']
  else if c = '\t' then ['\\', 't']
  else if Text.isPrintable c then [c]
  else escapedByCode c

/-- A string in single quotes, or in double quotes when that saves an escape. -/
def writtenText (text : String) : String :=
  let chars := text.toList
  let quote := if chars.contains '\'' && !chars.contains '"' then '"' else '\''
  String.ofList (quote :: chars.flatMap (writtenChar quote) ++ [quote])

def writtenBool (value : Bool) : String :=
  if value then "True" else "False"

def writtenKey : Key → String
  | .name plain => writtenText plain
  | .other plain => plain

mutual
/-- A value as it stands inside another value. -/
def written : Value → String
  | .null => "None"
  | .bool value => writtenBool value
  | .int value => toString value
  | .float value => value.text
  | .text value => writtenText value
  | .computed kind _ => writtenText kind.marker
  | .list items => "[" ++ commaSeparated (writtenItems items) ++ "]"
  | .tuple [item] => "(" ++ item.written ++ ",)"
  | .tuple items => "(" ++ commaSeparated (writtenItems items) ++ ")"
  | .map entries => "\x7b" ++ commaSeparated (writtenEntries entries) ++ "\x7d"
  | .callable source => source
  | .other _ plain => plain

def writtenItems : List Value → List String
  | [] => []
  | item :: items => item.written :: writtenItems items

def writtenEntries : List (Key × Value) → List String
  | [] => []
  | (key, value) :: rest => (writtenKey key ++ ": " ++ value.written) :: writtenEntries rest
end

/-- A value as it stands by itself in a text. -/
def display (value : Value) : String :=
  match value.string? with
  | some plain => plain
  | none => value.written

end ScreenFlow.Value
