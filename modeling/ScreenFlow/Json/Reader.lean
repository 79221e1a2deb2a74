import ScreenFlow.Text.Class
import ScreenFlow.Text.Pieces
import ScreenFlow.Value

/-!
Reading JSON texts.  Whole numbers and numbers with a fraction or an exponent are different values;
the words for the non-finite numbers are read as well.  Of two entries with one key the last wins,
at the place of the first.
-/

namespace ScreenFlow.Json

def isSpace (c : Char) : Bool :=
  c = ' ' || c = '\t' || c = '\n' || c = '\r'

def skipSpace (text : List Char) : List Char :=
  text.dropWhile isSpace

def hexValue? (c : Char) : Option Nat :=
  if c.isDigit then some (c.toNat - '0'.toNat)
  else if 'a' ≤ c && c ≤ 'f' then some (c.toNat - 'a'.toNat + 10)
  else if 'A' ≤ c && c ≤ 'F' then some (c.toNat - 'A'.toNat + 10)
  else none

def hexNumber? (digits : List Char) : Option Nat :=
  digits.foldl (fun value c => do return (← value) * 16 + (← hexValue? c)) (some 0)

/-- The four digits of a unit escape and what follows them. -/
def unit? : List Char → Option (Nat × List Char)
  | a :: b :: c :: d :: rest => (hexNumber? [a, b, c, d]).map (·, rest)
  | _ => none

/-- A unit that is half of a pair, standing alone. -/
def loneUnit : Char := Char.ofNat 0xFFFD

def simpleEscape? : Char → Option Char
  | '"' => some '"'
  | '\\' => some '\\'
  | '/' => some '/'
  | 'b' => some (Char.ofNat 8)
  | 'f' => some (Char.ofNat 12)
  | 'n' => some '\n'
  | 'r' => some '\r'
  | 't' => some '\t'
  | _ => none

/-- The character of a unit escape whose `u` has been read. -/
def unitEscape? (text : List Char) : Option (Char × List Char) := do
  let (unit, rest) ← unit? text
  if 0xD800 ≤ unit && unit < 0xDC00 then
    match rest with
    | '\\' :: 'u' :: more =>
        match unit? more with
        | some (second, after) =>
            if 0xDC00 ≤ second && second < 0xE000 then
              return (Char.ofNat (0x10000 + (unit - 0xD800) * 0x400 + (second - 0xDC00)), after)
            else return (loneUnit, rest)
        | none => none
    | _ => return (loneUnit, rest)
  else if 0xDC00 ≤ unit && unit < 0xE000 then return (loneUnit, rest)
  else return (Char.ofNat unit, rest)

/-- The string whose opening quote has been read, and what follows its closing quote. -/
def string? (read : List Char) : Nat → List Char → Option (String × List Char)
  | 0, _ => none
  | fuel + 1, text =>
      match text with
      | [] => none
      | '"' :: rest => some (String.ofList read.reverse, rest)
      | '\\' :: 'u' :: rest =>
          match unitEscape? rest with
          | some (c, after) => string? (c :: read) fuel after
          | none => none
      | '\\' :: c :: rest =>
          match simpleEscape? c with
          | some plain => string? (plain :: read) fuel rest
          | none => none
      | c :: rest => if c.toNat < 32 then none else string? (c :: read) fuel rest

def digits (text : List Char) : List Char × List Char :=
  (text.takeWhile Char.isDigit, text.dropWhile Char.isDigit)

def natOf (digits : List Char) : Nat :=
  digits.foldl (fun value c => value * 10 + (c.toNat - '0'.toNat)) 0

/-- A fraction is a point with at least one digit after it. -/
def fraction (text : List Char) : List Char × List Char :=
  match text with
  | '.' :: rest =>
      let (ds, after) := digits rest
      if ds.isEmpty then ([], text) else (ds, after)
  | _ => ([], text)

def exponent? (text : List Char) : Option (Int × List Char) :=
  match text with
  | mark :: rest =>
      if mark = 'e' || mark = 'E' then
        let (negative, rest) :=
          match rest with
          | '-' :: more => (true, more)
          | '+' :: more => (false, more)
          | _ => (false, rest)
        let (ds, after) := digits rest
        if ds.isEmpty then none
        else
          let size : Int := natOf ds
          some (if negative then -size else size, after)
      else none
  | [] => none

/-- The number at the start of a text that starts with a digit, its sign already read.  A whole number
of too many digits is none. -/
def number? (negative : Bool) (text : List Char) : Option (Value × List Char) :=
  match text with
  | [] => none
  | first :: rest =>
      if !first.isDigit then none
      else
        let (whole, rest) := if first = '0' then (['0'], rest) else digits text
        let (part, rest) := fraction rest
        match exponent? rest with
        | some (power, after) =>
            some (.float (.ofDecimal negative (natOf (whole ++ part)) (power - part.length)), after)
        | none =>
            if part.isEmpty then
              let size : Int := natOf whole
              if Text.mostDigits < whole.length then none
              else some (.int (if negative then -size else size), rest)
            else some (.float (.ofDecimal negative (natOf (whole ++ part)) (-part.length)), rest)

def word? (text : List Char) (word : String) (value : Value) : Option (Value × List Char) :=
  if word.toList.isPrefixOf text then some (value, text.drop word.length) else none

def scalar? (text : List Char) : Option (Value × List Char) :=
  match text with
  | '-' :: rest =>
      if "Infinity".toList.isPrefixOf rest then some (.float (.infinite true), rest.drop 8)
      else number? true rest
  | 'n' :: _ => word? text "null" .null
  | 't' :: _ => word? text "true" (.bool true)
  | 'f' :: _ => word? text "false" (.bool false)
  | 'N' :: _ => word? text "NaN" (.float .nan)
  | 'I' :: _ => word? text "Infinity" (.float (.infinite false))
  | _ => number? false text

mutual
/-- The value at the start of a text, and what follows it. -/
def value? : Nat → List Char → Option (Value × List Char)
  | 0, _ => none
  | fuel + 1, text =>
      match skipSpace text with
      | '[' :: rest =>
          match skipSpace rest with
          | ']' :: after => some (.list [], after)
          | _ => items? [] fuel rest
      | '\x7b' :: rest =>
          match skipSpace rest with
          | '\x7d' :: after => some (.map [], after)
          | _ => entries? [] fuel rest
      | '"' :: rest => (string? [] fuel rest).map fun (text, after) => (.text text, after)
      | start => scalar? start

/-- The rest of a list of which an item follows. -/
def items? (read : List Value) : Nat → List Char → Option (Value × List Char)
  | 0, _ => none
  | fuel + 1, text =>
      match value? fuel text with
      | none => none
      | some (item, rest) =>
          match skipSpace rest with
          | ',' :: more => items? (item :: read) fuel more
          | ']' :: after => some (.list (item :: read).reverse, after)
          | _ => none

/-- The rest of a map of which an entry follows. -/
def entries? (read : List (Key × Value)) : Nat → List Char → Option (Value × List Char)
  | 0, _ => none
  | fuel + 1, text =>
      match skipSpace text with
      | '"' :: rest =>
          match string? [] fuel rest with
          | none => none
          | some (key, rest) =>
              match skipSpace rest with
              | ':' :: rest =>
                  match value? fuel rest with
                  | none => none
                  | some (value, rest) =>
                      let read := (.name key, value) :: read
                      match skipSpace rest with
                      | ',' :: more => entries? read fuel more
                      | '\x7d' :: after => some (.map (Entries.ofPairs read.reverse), after)
                      | _ => none
              | _ => none
      | _ => none
end

/-- The value of a JSON text; none when the text is not one. -/
def read? (text : String) : Option Value :=
  let chars := text.toList
  match value? (2 * chars.length + 2) chars with
  | some (value, rest) => if (skipSpace rest).isEmpty then some value else none
  | none => none

end ScreenFlow.Json
