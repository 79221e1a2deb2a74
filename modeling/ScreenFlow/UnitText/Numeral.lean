import ScreenFlow.Json.Reader

/-!
Number literals of unit texts: whole numbers in four bases, decimal fractions and imaginary numbers.
Single low lines may stand between digits.  A numeral ends where its characters end, and no name may
follow it directly.
-/

namespace ScreenFlow.UnitText

inductive Numeral where
  | whole (value : Nat)
  | fraction (value : Binary64)
  | imaginary (value : Binary64)
  deriving Repr, Inhabited, DecidableEq

namespace Numeral

/-- The rest of a group of digits, with single low lines between them; no value when a low line is
not followed by a digit. -/
def moreDigits? (isDigit : Char → Bool) : List Char → Option (List Char × List Char)
  | [] => some ([], [])
  | '_' :: c :: rest =>
      if isDigit c then (moreDigits? isDigit rest).map fun (ds, after) => (c :: ds, after)
      else none
  | c :: rest =>
      if isDigit c then (moreDigits? isDigit rest).map fun (ds, after) => (c :: ds, after)
      else if c = '_' then none
      else some ([], c :: rest)

def valueIn (base : Nat) (digits : List Char) : Nat :=
  digits.foldl (fun value c => value * base + (Json.hexValue? c).getD 0) 0

def isDigitOf (base : Nat) (c : Char) : Bool :=
  ((Json.hexValue? c).map fun n => decide (n < base)).getD false

def startsWithDigit (text : List Char) : Bool :=
  (text.head?.map Char.isDigit).getD false

/-- Digits of a base after its mark, at least one, perhaps with a low line in front. -/
def based? (base : Nat) (text : List Char) : Option (Numeral × List Char) := do
  let text :=
    match text with
    | '_' :: rest => rest
    | _ => text
  if !(text.head?.map (isDigitOf base)).getD false then none
  let (digits, rest) ← moreDigits? (isDigitOf base) text
  if startsWithDigit rest then none
  return (.whole (valueIn base digits), rest)

/-- The exponent at the start of a text; an `e` without digits after it is none. -/
def exponent? (text : List Char) : Option (Option Int × List Char) :=
  match text with
  | mark :: rest =>
      if mark = 'e' || mark = 'E' then
        let (sign, digits) : Option Bool × List Char :=
          match rest with
          | '-' :: more => (some true, more)
          | '+' :: more => (some false, more)
          | _ => (none, rest)
        if startsWithDigit digits then do
          let (ds, after) ← moreDigits? Char.isDigit digits
          let size : Int := valueIn 10 ds
          return (some (if sign = some true then -size else size), after)
        else if sign.isSome then none
        else some (none, text)
      else some (none, text)
  | [] => some (none, [])

/-- The digits after a point, if any. -/
def fractionDigits? (text : List Char) : Option (List Char × List Char) :=
  if startsWithDigit text then moreDigits? Char.isDigit text else some ([], text)

def isImaginaryMark (c : Char) : Bool :=
  c = 'j' || c = 'J'

/-- A whole number in decimal digits starts with no zero, unless it is zero. -/
def wellLed (digits : List Char) : Bool :=
  digits.head? != some '0' || digits.all (· = '0')

/-- The most decimal digits of a whole number. -/
def mostDigits : Nat := 4300

/-- A numeral in decimal digits, whose part before the point has been read. -/
def decimal? (whole text : List Char) : Option (Numeral × List Char) := do
  let (point, part, rest) ←
    match text with
    | '.' :: rest => (fractionDigits? rest).map fun (ds, after) => (true, ds, after)
    | _ => some (false, [], text)
  let (power, rest) ← exponent? rest
  let value := Binary64.ofDecimal false (valueIn 10 (whole ++ part))
    (power.getD 0 - part.length)
  match rest with
  | c :: after =>
      if isImaginaryMark c then return (.imaginary value, after)
  | [] => pure ()
  if point || power.isSome then return (.fraction value, rest)
  else if wellLed whole && whole.length ≤ mostDigits then
    return (.whole (valueIn 10 whole), rest)
  else none

/-- Words that may follow a numeral without a blank. -/
def followers : List String := ["and", "else", "for", "if", "in", "is", "not", "or"]

def isNameLike (c : Char) : Bool :=
  c.isAlphanum || c = '_' || 127 < c.toNat

def endsWell (rest : List Char) : Bool :=
  followers.any (·.toList.isPrefixOf rest) || !(rest.head?.map isNameLike).getD false

/-- The numeral at the start of a text that starts with a digit, or with a point and a digit. -/
def read? (text : List Char) : Option (Numeral × List Char) := do
  let (numeral, rest) ←
    match text with
    | '0' :: 'x' :: rest => based? 16 rest
    | '0' :: 'X' :: rest => based? 16 rest
    | '0' :: 'o' :: rest => based? 8 rest
    | '0' :: 'O' :: rest => based? 8 rest
    | '0' :: 'b' :: rest => based? 2 rest
    | '0' :: 'B' :: rest => based? 2 rest
    | '.' :: _ => decimal? [] text
    | _ => (moreDigits? Char.isDigit text).bind fun (digits, rest) => decimal? digits rest
  if endsWell rest then return (numeral, rest) else none

end Numeral

end ScreenFlow.UnitText
