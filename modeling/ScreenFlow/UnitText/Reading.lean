import ScreenFlow.UnitText.Expr
import ScreenFlow.UnitText.Lexer

/-!
Reading tokens one after the other.  A reading either succeeds and leaves the rest, or the text is
not a unit text at all.
-/

namespace ScreenFlow.UnitText

structure Cursor where
  rest : List Lexeme
  /-- Where the last token that was read stops, line ends and indentation apart. -/
  stop : Nat := 0
  deriving Inhabited

abbrev Reader := StateT Cursor Option

namespace Reader

def peek : Reader Token := do
  return ((← get).rest.head?.map (·.token)).getD .finish

/-- The token behind the next one. -/
def peekSecond : Reader Token := do
  return (((← get).rest.drop 1).head?.map (·.token)).getD .finish

/-- Where the next token starts. -/
def place : Reader Nat := do
  let cursor ← get
  return (cursor.rest.head?.map (·.span.start)).getD cursor.stop

def isLayout : Token → Bool
  | .newline => true
  | .indent => true
  | .dedent => true
  | .finish => true
  | _ => false

/-- Reads the next token. -/
def next : Reader Token := do
  let cursor ← get
  match cursor.rest with
  | [] => failure
  | lexeme :: rest =>
      set { rest, stop := if isLayout lexeme.token then cursor.stop else lexeme.span.stop : Cursor }
      return lexeme.token

/-- Reads the token if it is the next one, and says whether it was. -/
def accept (token : Token) : Reader Bool := do
  if (← peek) = token then
    let _ ← next
    return true
  else return false

def expect (token : Token) : Reader Unit := do
  if ← accept token then return () else failure

def acceptMark (text : String) : Reader Bool := accept (.mark text)

def mark (text : String) : Reader Unit := expect (.mark text)

def acceptWord (text : String) : Reader Bool := accept (.word text)

def word (text : String) : Reader Unit := expect (.word text)

def nextIsMark (text : String) : Reader Bool := do
  return (← peek) = .mark text

def nextIsWord (text : String) : Reader Bool := do
  return (← peek) = .word text

/-- Reads a name, which is a word that is not reserved. -/
def name : Reader String := do
  match ← next with
  | .word text => if reserved.contains text then failure else return text
  | _ => failure

def isName : Token → Bool
  | .word text => !reserved.contains text
  | _ => false

/-- Whether the next tokens are a name and the given mark. -/
def nextBinds (text : String) : Reader Bool := do
  return isName (← peek) && (← peekSecond) = .mark text

/-- The expression of a form that starts at the given place and ends with the last token read. -/
def spanning (start : Nat) (form : Form) : Reader Expr := do
  return .mk ⟨start, (← get).stop⟩ form

/-- Reads operands joined by one of the operators, grouping to the left; the first operand has been
read. -/
def leftChain (operators : List (String × Binary)) (operand : Reader Expr) (start : Nat) :
    Nat → Expr → Reader Expr
  | 0, _ => failure
  | fuel + 1, left => do
      let found :=
        match ← peek with
        | .mark text => operators.lookup text
        | _ => none
      match found with
      | none => return left
      | some op => do
          let _ ← next
          let right ← operand
          leftChain operators operand start fuel (← spanning start (.binary op left right))

/-- Reads operands joined by a word; a single operand stands for itself. -/
def joined (joint : String) (operand : Reader Expr) : Nat → Reader (List Expr)
  | 0 => failure
  | fuel + 1 => do
      let first ← operand
      if ← acceptWord joint then return first :: (← joined joint operand fuel)
      else return [first]

/-- Reads items with commas between them, and perhaps one behind the last; also says whether a
comma was read. -/
def commaList (isEnd : Token → Bool) (item : Reader α) : Nat → Reader (List α × Bool)
  | 0 => failure
  | fuel + 1 => do
      let first ← item
      if ← acceptMark "," then
        if isEnd (← peek) then return ([first], true)
        else
          let (items, _) ← commaList isEnd item fuel
          return (first :: items, true)
      else return ([first], false)

/-- What can stand behind a list of expressions that is not in brackets. -/
def endsList : Token → Bool
  | .mark text => [")", "]", "\x7d", "=", ":", ";"].contains text || text.endsWith "="
  | .word text => ["in", "for", "if", "else", "as", "from", "async"].contains text
  | .newline => true
  | .finish => true
  | _ => false

end Reader

end ScreenFlow.UnitText
