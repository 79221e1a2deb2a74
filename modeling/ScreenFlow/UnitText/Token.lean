import ScreenFlow.UnitText.Numeral
import ScreenFlow.UnitText.Quoted

/-!
Tokens of unit texts.  Lines and their indentation count, so they have tokens of their own; a token
knows where in the text it starts and stops.
-/

namespace ScreenFlow.UnitText

inductive Token where
  | word (text : String)
  | number (value : Numeral)
  | quoted (literal : Quoted)
  | mark (text : String)
  | newline
  | indent
  | dedent
  | finish
  deriving Repr, Inhabited, DecidableEq

/-- A stretch of a text, given by the places of its first character and behind its last one. -/
structure Span where
  start : Nat
  stop : Nat
  deriving Repr, Inhabited, DecidableEq

def Span.slice (span : Span) (text : List Char) : String :=
  String.ofList ((text.drop span.start).take (span.stop - span.start))

structure Lexeme where
  token : Token
  span : Span
  deriving Repr, Inhabited, DecidableEq

/-- Words that cannot be names. -/
def reserved : List String := [
  "False", "None", "True", "and", "as", "assert", "async", "await", "break", "class", "continue",
  "def", "del", "elif", "else", "except", "finally", "for", "from", "global", "if", "import", "in",
  "is", "lambda", "nonlocal", "not", "or", "pass", "raise", "return", "try", "while", "with",
  "yield"]

/-- Marks, so ordered that a longer mark stands before those it starts with. -/
def marks : List String := [
  "**=", "//=", ">>=", "<<=", "...", "**", "//", ">>", "<<", "<=", ">=", "==", "!=", "->", "+=",
  "-=", "*=", "/=", "%=", "&=", "|=", "^=", "@=", ":=", "+", "-", "*", "/", "%", "&", "|", "^", "~",
  "<", ">", "=", ".", ",", ":", ";", "@", "(", ")", "[", "]", "\x7b", "\x7d"]

/-- The bracket that closes what an opening bracket opens. -/
def closing? : Char → Option Char
  | '(' => some ')'
  | '[' => some ']'
  | '\x7b' => some '\x7d'
  | _ => none

def isClosing (c : Char) : Bool :=
  c = ')' || c = ']' || c = '\x7d'

end ScreenFlow.UnitText
