/-!
String literals and property names of the generated script.  In a single-quoted literal a
backslash, a quote and the two line ends are escaped, so that the first bare quote after the
opening one ends the literal.

A property name stands as a key of an object literal, and behind the object that holds the
property.  A plain name stands bare, any other in quotes.
-/

namespace ScreenFlow.Script

def escaped (c : Char) : List Char :=
  if c = '\\' then ['\\', '\\']
  else if c = '\'' then ['\\', '\'']
  else if c = '\n' then ['\\', 'n']
  else if c = '\r' then ['\\', 'r']
  else [c]

def encode (text : List Char) : List Char :=
  '\'' :: text.flatMap escaped ++ ['\'']

/-- The literal of a text. -/
def quote (text : String) : String :=
  String.ofList (encode text.toList)

@[simp] theorem toList_quote (text : String) : (quote text).toList = encode text.toList := by
  simp [quote]

def isNameStart (c : Char) : Bool :=
  ('A' ≤ c && c ≤ 'Z') || ('a' ≤ c && c ≤ 'z') || c = '_' || c = '$'

def isNamePart (c : Char) : Bool :=
  isNameStart c || ('0' ≤ c && c ≤ '9')

/-- One line feed after the name is passed over. -/
def isPlainName : List Char → Bool
  | [] => false
  | c :: rest => isNameStart c && (rest.all isNamePart || endsPlain rest)
where
  endsPlain (rest : List Char) : Bool :=
    rest.getLast? == some '\n' && rest.dropLast.all isNamePart

def key (name : String) : String :=
  if isPlainName name.toList then name else quote name

/-- Access to the property of an object. -/
def member (object name : String) : String :=
  if isPlainName name.toList then object ++ "." ++ name else object ++ "[" ++ quote name ++ "]"

/-- An object literal whose values are already expressions. -/
def object (entries : List (String × String)) : String :=
  "\x7b " ++ ", ".intercalate (entries.map fun entry => key entry.1 ++ ": " ++ entry.2) ++ " \x7d"

end ScreenFlow.Script
