import ScreenFlow.Text.Blank
import ScreenFlow.Text.Pieces

/-!
Environment files: lines that name a variable and its value.  A value may stand in quotes, in which
it may span lines and hold escapes; without quotes it ends before a blank and a number sign.
Earlier variables can be used in it.  A line that is not understood is passed over.
-/

namespace ScreenFlow.EnvironmentFile

def isLineBreak (c : Char) : Bool :=
  c = '\n' || c = '\r'

/-- A blank that does not end the line. -/
def isInlineBlank (c : Char) : Bool :=
  Text.isBlank c && !isLineBreak c

def isKeyChar (c : Char) : Bool :=
  c != '=' && c != '#' && !Text.isBlank c

/-- What stands behind one line break. -/
def afterBreak : List Char → List Char
  | '\r' :: '\n' :: rest => rest
  | c :: rest => if isLineBreak c then rest else c :: rest
  | [] => []

/-- What stands behind the rest of the line. -/
def afterLine (text : List Char) : List Char :=
  afterBreak (text.dropWhile (!isLineBreak ·))

/-- The text behind a word that a blank on the same line follows. -/
def afterExport (text : List Char) : List Char :=
  if "export".toList.isPrefixOf text then
    match text.drop 6 with
    | c :: rest => if isInlineBlank c then rest.dropWhile isInlineBlank else text
    | [] => text
  else text

/-- A quoted text and what follows it; a quote behind a backslash ends it only when no other
does. -/
def quoted? (quote : Char) : List Char → Option (List Char × List Char)
  | [] => none
  | '\\' :: d :: rest =>
      if d = quote then
        match quoted? quote rest with
        | some (inside, after) => some ('\\' :: d :: inside, after)
        | none => some (['\\'], rest)
      else (quoted? quote (d :: rest)).map fun found => ('\\' :: found.1, found.2)
  | c :: rest =>
      if c = quote then some ([], rest)
      else (quoted? quote rest).map fun found => (c :: found.1, found.2)
termination_by text => text.length

/-- The character that an escape stands for in double quotes. -/
def escapedChar? : Char → Option Char
  | '\\' => some '\\'
  | '\'' => some '\''
  | '"' => some '"'
  | 'a' => some (Char.ofNat 7)
  | 'b' => some (Char.ofNat 8)
  | 'f' => some (Char.ofNat 12)
  | 'n' => some '\n'
  | 'r' => some '\r'
  | 't' => some '\t'
  | 'v' => some (Char.ofNat 11)
  | _ => none

def plainEscape? (c : Char) : Option Char :=
  if c = '\\' || c = '\'' then some c else none

def unescaped (escape : Char → Option Char) : List Char → List Char
  | '\\' :: c :: rest =>
      match escape c with
      | some meant => meant :: unescaped escape rest
      | none => '\\' :: unescaped escape (c :: rest)
  | c :: rest => c :: unescaped escape rest
  | [] => []

/-- A value without quotes, up to a blank and a number sign. -/
def bare (line : List Char) : List Char :=
  Text.trimRight (cut line)
where
  cut : List Char → List Char
    | [] => []
    | c :: rest =>
        if Text.isBlank c && (Text.trimLeft rest).head? = some '#' then [] else c :: cut rest

/-- A key and what follows it; a comment has none. -/
def key? (text : List Char) : Option (Option String × List Char) :=
  match text with
  | '#' :: _ => some (none, text)
  | '\'' :: rest =>
      match rest.takeWhile (· != '\''), rest.dropWhile (· != '\'') with
      | [], _ => none
      | _, [] => none
      | key, _ :: after => some (some (String.ofList key), after)
  | _ =>
      match text.takeWhile isKeyChar with
      | [] => none
      | key => some (some (String.ofList key), text.dropWhile isKeyChar)

def value? (text : List Char) : Option (List Char × List Char) :=
  match text with
  | '\'' :: rest => (quoted? '\'' rest).map fun found => (unescaped plainEscape? found.1, found.2)
  | '"' :: rest => (quoted? '"' rest).map fun found => (unescaped escapedChar? found.1, found.2)
  | _ => some (bare (text.takeWhile (!isLineBreak ·)), text.dropWhile (!isLineBreak ·))

/-- A result, or the text that could not be used. -/
abbrev Step := Except (List Char)

def ofOption (text : List Char) : Option α → Step α
  | some found => .ok found
  | none => .error text

/-- The value behind the key, if an equals sign announces one. -/
def assigned (text : List Char) : Step (Option (List Char) × List Char) :=
  match text.dropWhile isInlineBlank with
  | '=' :: rest =>
      let start := rest.dropWhile isInlineBlank
      ofOption start ((value? start).map fun found => (some found.1, found.2))
  | rest => .ok (none, rest)

/-- What stands behind the end of a line that may hold a comment. -/
def lineEnd (text : List Char) : Step (List Char) :=
  let rest := text.dropWhile isInlineBlank
  match rest with
  | [] => .ok []
  | '#' :: _ => .ok (afterLine rest)
  | c :: _ => if isLineBreak c then .ok (afterBreak rest) else .error rest

/-- A variable with its value. -/
def binding (text : List Char) : Step ((Option String × Option (List Char)) × List Char) := do
  let (key, rest) ← ofOption text (key? text)
  let (value, rest) ← assigned rest
  return ((key, value), ← lineEnd rest)

/-- The variables of a text and their values as they are written; `fuel` is more than the length of
the text. -/
def bindings : Nat → List Char → List (String × List Char)
  | 0, _ => []
  | fuel + 1, text =>
      match Text.trimLeft text with
      | [] => []
      | start =>
          match binding (afterExport start) with
          | .ok ((some key, some value), rest) => (key, value) :: bindings fuel rest
          | .ok (_, rest) => bindings fuel rest
          | .error rest => bindings fuel (afterLine rest)

/-- The name in a use of a variable, what stands in for it when there is none, and what follows. -/
def variableUse? (text : List Char) : Option (String × List Char × List Char) :=
  match text with
  | '$' :: '\x7b' :: rest =>
      let name := rest.takeWhile fun c => c != '\x7d' && c != ':'
      match rest.dropWhile fun c => c != '\x7d' && c != ':' with
      | '\x7d' :: after => some (String.ofList name, [], after)
      | ':' :: '-' :: more =>
          match more.dropWhile (· != '\x7d') with
          | _ :: after => some (String.ofList name, more.takeWhile (· != '\x7d'), after)
          | [] => none
      | _ => none
  | _ => none

/-- A value in which the uses of variables are filled in; `fuel` is at least its length. -/
def filledIn (known : List (String × List Char)) : Nat → List Char → List Char
  | 0, text => text
  | _, [] => []
  | fuel + 1, c :: rest =>
      match variableUse? (c :: rest) with
      | some (name, default, after) =>
          (known.lookup name).getD default ++ filledIn known fuel after
      | none => c :: filledIn known fuel rest

/-- The variables with their values, the last one first; `known` are those before them. -/
def resolved (known : List (String × List Char)) :
    List (String × List Char) → List (String × List Char)
  | [] => known
  | (key, value) :: rest => resolved ((key, filledIn known value.length value) :: known) rest

/-- The value that an environment file gives a variable. -/
def lookup? (name text : String) : Option String :=
  ((resolved [] (bindings (text.length + 1) text.toList)).lookup name).map String.ofList

end ScreenFlow.EnvironmentFile
