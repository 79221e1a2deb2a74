import ScreenFlow.Text.Tables

/-!
Character classes given by their switch points: a class is off before the first point, on from the
first to just before the second, and so on.  Nothing is stored per character.  Word characters and
the characters of names are such classes.
-/

namespace ScreenFlow.Text

/-- An odd number of switch points at or below the character puts it in the class. -/
def inClass (switches : List Nat) (c : Char) : Bool :=
  (switches.takeWhile (· ≤ c.toNat)).length % 2 == 1

@[simp] theorem inClass_nil (c : Char) : inClass [] c = false := rfl

def isWord (c : Char) : Bool :=
  c.isAlphanum || c == '_' || (128 ≤ c.toNat && inClass wordSwitches c)

def isNameStart (c : Char) : Bool :=
  c.isAlpha || c == '_' || (128 ≤ c.toNat && inClass nameStartSwitches c)

def isNamePart (c : Char) : Bool :=
  c.isAlphanum || c == '_' || (128 ≤ c.toNat && inClass namePartSwitches c)

def isPrintable (c : Char) : Bool :=
  if c.toNat < 127 then 32 ≤ c.toNat else !inClass unprintableSwitches c

/-! Digits of every script.  A decimal digit has a value from 0 to 9 in a positional system; the
wider class of digits also holds raised, lowered and circled digits, which spell no number. -/

/-- The zero of each run of ten decimal digits. -/
def decimalZeros : List Nat := [
  48, 1632, 1776, 1984, 2406, 2534, 2662, 2790, 2918, 3046, 3174, 3302, 3430, 3558, 3664, 3792,
  3872, 4160, 4240, 6112, 6160, 6470, 6608, 6784, 6800, 6992, 7088, 7232, 7248, 42528, 43216,
  43264, 43472, 43504, 43600, 44016, 65296, 66720, 68912, 69734, 69872, 69942, 70096, 70384,
  70736, 70864, 71248, 71360, 71472, 71904, 72016, 72784, 73040, 73120, 92768, 92864, 93008,
  120782, 120792, 120802, 120812, 120822, 123200, 123632, 125264, 130032]

/-- Digits that are not decimal digits. -/
def otherDigitSwitches : List Nat := [
  178, 180, 185, 186, 4969, 4978, 6618, 6619, 8304, 8305, 8308, 8314, 8320, 8330, 9312, 9321,
  9332, 9341, 9352, 9361, 9450, 9451, 9461, 9470, 9471, 9472, 10102, 10111, 10112, 10121, 10122,
  10131, 68160, 68164, 69216, 69225, 69714, 69723, 127232, 127243]

def decimalValue? (c : Char) : Option Nat :=
  (decimalZeros.find? fun start => start ≤ c.toNat && c.toNat < start + 10).map (c.toNat - ·)

def isDecimal (c : Char) : Bool :=
  (decimalValue? c).isSome

def isDigit (c : Char) : Bool :=
  isDecimal c || inClass otherDigitSwitches c

/-- A text of at least one digit and nothing else. -/
def allDigits (text : List Char) : Bool :=
  !text.isEmpty && text.all isDigit

/-- The number a text of decimal digits spells; no value when another character stands in it. -/
def decimalNumber? (text : List Char) : Option Nat :=
  text.foldl (fun value c => do return (← value) * 10 + (← decimalValue? c)) (some 0)

/-- The longest text of digits that is read as a number. -/
def mostDigits : Nat := 4300

/-- The number of a text of decimal digits that is not too long to be read. -/
def wholeNumber? (text : List Char) : Option Nat :=
  if mostDigits < text.length then none else decimalNumber? text

end ScreenFlow.Text
