import ScreenFlow.Text.Class
import ScreenFlow.Text.Pieces

/-!
Words of a command line.  A long option may be cut short as long as it stays unmistakable, and its
value may be attached by an equals sign.  A number is never an option, nor is a word with a space in
it that means none; a lone double dash ends the options.
-/

namespace ScreenFlow.CommandLine

structure Flag where
  name : String
  /-- A flag either takes a value or stands for itself. -/
  takesValue : Bool := true
  deriving DecidableEq, Repr

inductive Word where
  | value (text : String)
  | separator
  | option (flag : Flag) (attached : Option String)
  | unknown
  | ambiguous
  deriving DecidableEq, Repr

namespace Word

def helpFlag : Flag := { name := "--help", takesValue := false }

def shortHelp : List Char := ['-', 'h']

/-- A whole number or a decimal fraction below zero; one line feed behind it does not count. -/
def isNegativeNumber (word : List Char) : Bool :=
  match word with
  | '-' :: rest =>
      let rest := if rest.getLast? = some '\n' then rest.dropLast else rest
      match Text.cutFirst? '.' rest with
      | none => !rest.isEmpty && rest.all Text.isDecimal
      | some (whole, fraction) =>
          whole.all Text.isDecimal && !fraction.isEmpty && fraction.all Text.isDecimal
  | _ => false

/-- What a word means that begins like an option and is none. -/
def ofOther (word : List Char) : Word :=
  if isNegativeNumber word || word.contains ' ' then .value (String.ofList word) else .unknown

/-- The flags that a name may be short for; the name itself is short for nothing else. -/
def meant (flags : List Flag) (name : String) : List Flag :=
  match flags.find? (·.name == name) with
  | some flag => [flag]
  | none => flags.filter fun flag => startsWith flag.name name

/-- The name in a long option and the value attached to it. -/
def cutValue (word : List Char) : String × Option String :=
  match Text.cutFirst? '=' word with
  | some (name, after) => (String.ofList name, some (String.ofList after))
  | none => (String.ofList word, none)

def ofLong (flags : List Flag) (word : List Char) : Word :=
  let parts := cutValue word
  match meant flags parts.1 with
  | [] => ofOther word
  | [flag] => .option flag parts.2
  | _ => .ambiguous

/-- What follows the letter of the help option: the same letter again changes nothing, a value or
another dash is too much, and anything else comes too late. -/
def ofShort (rest : List Char) : Word :=
  match rest.dropWhile (· = 'h') with
  | '=' :: _ => .option helpFlag (some "")
  | '-' :: _ => .option helpFlag (some "")
  | _ => .option helpFlag none

/-- The meaning of a word among the flags of a command. -/
def ofText (flags : List Flag) (text : String) : Word :=
  match text.toList with
  | ['-', '-'] => .separator
  | '-' :: '-' :: rest => ofLong flags ('-' :: '-' :: rest)
  | '-' :: 'h' :: rest => ofShort rest
  | '-' :: c :: rest => ofOther ('-' :: c :: rest)
  | _ => .value text

/-- Whether a word in front of the double dash may be short for several flags. -/
def anyAmbiguous (flags : List Flag) (texts : List String) : Bool :=
  (texts.takeWhile (· != "--")).any fun text => ofText flags text == .ambiguous

end Word

end ScreenFlow.CommandLine
