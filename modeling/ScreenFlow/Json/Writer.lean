import ScreenFlow.Value.Written

/-!
JSON texts of values.  Characters outside ASCII are written as escapes of their UTF-16 units.
Without an indent everything stands on one line; with one, each item has its own, moved to the right
by the indent once for every level.
-/

namespace ScreenFlow.Json

/-- The UTF-16 units of a character. -/
def units (c : Char) : List Nat :=
  let n := c.toNat
  if n < 0x10000 then [n] else [0xD800 + (n - 0x10000) / 0x400, 0xDC00 + (n - 0x10000) % 0x400]

def escapedUnit (unit : Nat) : List Char :=
  '\\' :: 'u' :: Value.hexDigits 4 unit

def escapedChar (c : Char) : List Char :=
  if c = '"' then ['\\', '"']
  else if c = '\\' then ['\\', '\\']
  else if c = '\n' then ['\\', 'n']
  else if c = '\r' then ['\\', 'r']
  else if c = '\t' then ['\\', 't']
  else if c.toNat = 8 then ['\\', 'b']
  else if c.toNat = 12 then ['\\', 'f']
  else if 32 ≤ c.toNat && c.toNat < 127 then [c]
  else (units c).flatMap escapedUnit

def quoted (text : String) : String :=
  String.ofList ('"' :: text.toList.flatMap escapedChar ++ ['"'])

def floatText : Binary64 → String
  | .nan => "NaN"
  | .infinite negative => if negative then "-Infinity" else "Infinity"
  | x => x.text

def boolText (value : Bool) : String :=
  if value then "true" else "false"

def keyText : Key → String
  | .name text => quoted text
  | .other "None" => quoted "null"
  | .other "True" => quoted "true"
  | .other "False" => quoted "false"
  | .other written => quoted written

/-- An indent of so many spaces. -/
def spaces (width : Nat) : String :=
  String.ofList (List.replicate width ' ')

/-- What stands between two items, and around all of them, at a nesting depth. -/
def lineBreak (indent : Option String) (depth : Nat) : String :=
  match indent with
  | none => ""
  | some unit => "\n" ++ String.join (List.replicate depth unit)

def bracketed (opening closing : String) (indent : Option String) (depth : Nat)
    (items : List String) : String :=
  if items.isEmpty then opening ++ closing
  else
    let separator := if indent.isSome then "," ++ lineBreak indent (depth + 1) else ", "
    opening ++ lineBreak indent (depth + 1) ++ separator.intercalate items ++
      lineBreak indent depth ++ closing

mutual
def textAt (indent : Option String) (depth : Nat) : Value → String
  | .null => "null"
  | .bool value => boolText value
  | .int value => toString value
  | .float value => floatText value
  | .text value => quoted value
  | .computed kind _ => quoted kind.marker
  | .list items => bracketed "[" "]" indent depth (itemTexts indent (depth + 1) items)
  | .tuple items => bracketed "[" "]" indent depth (itemTexts indent (depth + 1) items)
  | .map entries => bracketed "\x7b" "\x7d" indent depth (entryTexts indent (depth + 1) entries)
  | .callable source => quoted source
  | .other _ written => quoted written

def itemTexts (indent : Option String) (depth : Nat) : List Value → List String
  | [] => []
  | item :: items => textAt indent depth item :: itemTexts indent depth items

def entryTexts (indent : Option String) (depth : Nat) : List (Key × Value) → List String
  | [] => []
  | (key, value) :: rest =>
      (keyText key ++ ": " ++ textAt indent depth value) :: entryTexts indent depth rest
end

/-- The JSON text of a value, on one line or indented. -/
def text (value : Value) (indent : Option String) : String :=
  textAt indent 0 value

end ScreenFlow.Json
