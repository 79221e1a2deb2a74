import ScreenFlow.Text.Lines
import ScreenFlow.Text.Class
import ScreenFlow.UnitText.Token

/-!
From the characters of a unit text to its tokens.  Inside brackets line ends do not count.  Outside
them every line that is not blank ends in a newline, and a deeper line stands between an indent and
a dedent.  A text whose brackets, quotes or indentation do not fit together has no tokens.
-/

namespace ScreenFlow.UnitText

/-- The columns of a line's first character: with tabs that go to the next multiple of eight, and
with tabs that count as one blank.  Two lines are compared in both ways. -/
structure Column where
  wide : Nat := 0
  narrow : Nat := 0
  deriving Repr, DecidableEq, Inhabited

structure Lexer where
  rest : List Char
  place : Nat := 0
  /-- The brackets that have to close what is open, the innermost first. -/
  brackets : List Char := []
  /-- The columns of the enclosing blocks, the innermost first. -/
  columns : List Column := [{}]
  atLineStart : Bool := true
  /-- Whether a last line without a line end is taken to have one. -/
  completes : Bool := true
  /-- The tokens so far, the last one first. -/
  done : List Lexeme := []
  deriving Inhabited

namespace Lexer

def mostBrackets : Nat := 200

def mostColumns : Nat := 100

def advance (lexer : Lexer) (count : Nat) : Lexer :=
  { lexer with rest := lexer.rest.drop count, place := lexer.place + count }

/-- Adds a token of the next `count` characters. -/
def emit (lexer : Lexer) (token : Token) (count : Nat) : Lexer :=
  { lexer.advance count with
    done := ⟨token, ⟨lexer.place, lexer.place + count⟩⟩ :: lexer.done }

/-- The length of the line end at the start of a text. -/
def lineEnd? : List Char → Option Nat
  | '\n' :: _ => some 1
  | '\r' :: '\n' :: _ => some 2
  | '\r' :: _ => some 1
  | _ => none

def isGap (c : Char) : Bool :=
  c = ' ' || c = '\t' || c = Char.ofNat 12

/-- The length of a backslash at the end of a line, with the line end; something must follow. -/
def joint? (text : List Char) : Option Nat :=
  match text with
  | '\\' :: rest =>
      match lineEnd? rest with
      | some size => if (rest.drop size).isEmpty then none else some (size + 1)
      | none => none
  | _ => none

def nextTab (column : Nat) : Nat :=
  (column / 8 + 1) * 8

/-- The column at which the text of a line starts, and the number of characters before it.  Of a
line that a backslash continues the first column that is not zero counts. -/
def column (fuel size : Nat) (here : Column) (held : Nat) (text : List Char) : Column × Nat :=
  match fuel with
  | 0 => (here, size)
  | fuel + 1 =>
      match text with
      | ' ' :: rest => column fuel (size + 1) ⟨here.wide + 1, here.narrow + 1⟩ held rest
      | '\t' :: rest => column fuel (size + 1) ⟨nextTab here.wide, here.narrow + 1⟩ held rest
      | c :: rest =>
          if c = Char.ofNat 12 then column fuel (size + 1) {} held rest
          else
            match joint? (c :: rest) with
            | some count =>
                column fuel (size + count) here (if held = 0 then here.wide else held)
                  ((c :: rest).drop count)
            | none => (if held = 0 then here else ⟨held, held⟩, size)
      | [] => (if held = 0 then here else ⟨held, held⟩, size)

/-- Closes blocks until one of the given column is the innermost. -/
def dedent (start : Column) (place : Nat) : List Column → List Lexeme →
    Option (List Column × List Lexeme)
  | [], _ => none
  | innermost :: outer, done =>
      if start.wide < innermost.wide then
        dedent start place outer (⟨.dedent, ⟨place, place⟩⟩ :: done)
      else if start = innermost then some (innermost :: outer, done)
      else none

/-- Opens or closes blocks for a line that starts at the given column. -/
def indentTo (lexer : Lexer) (start : Column) : Option Lexer :=
  match lexer.columns with
  | [] => none
  | innermost :: outer =>
      if innermost.wide < start.wide then
        if mostColumns ≤ outer.length + 1 || start.narrow ≤ innermost.narrow then none
        else some { lexer with
          columns := start :: innermost :: outer
          done := ⟨.indent, ⟨lexer.place, lexer.place⟩⟩ :: lexer.done }
      else
        (dedent start lexer.place lexer.columns lexer.done).map fun (columns, done) =>
          { lexer with columns, done }

/-- A line of blanks, or of a comment only, has no tokens. -/
def isBlankLine (lexer : Lexer) : Bool :=
  match lexer.rest with
  | [] => lexer.completes
  | c :: _ => c = '#' || (lineEnd? lexer.rest).isSome

def startLine (lexer : Lexer) : Option Lexer :=
  let (start, size) := column (lexer.rest.length + 1) 0 {} 0 lexer.rest
  let lexer := { lexer.advance size with atLineStart := false }
  if lexer.isBlankLine then some lexer else lexer.indentTo start

/-- The length of a comment. -/
def commentSize (text : List Char) : Nat :=
  (text.takeWhile fun c => c != '\n' && c != '\r').length

/-- Ends a line.  Inside brackets, and behind a blank line, there is no token for it. -/
def endLine (lexer : Lexer) (size : Nat) : Lexer :=
  let isEmpty : Bool :=
    match lexer.done with
    | [] => true
    | last :: _ => [.newline, .indent, .dedent].contains last.token
  if !lexer.brackets.isEmpty then lexer.advance size
  else
    { (if isEmpty then lexer.advance size else lexer.emit .newline size) with
      atLineStart := true }

/-- The letters in front of a string literal: which of them may stand together. -/
def literalOf? (letters : List Char) : Option Quoted :=
  match letters.map Char.toLower with
  | [] => some { body := [] }
  | ['u'] => some { body := [] }
  | ['r'] => some { isRaw := true, body := [] }
  | ['b'] => some { isBytes := true, body := [] }
  | ['f'] => some { isTemplate := true, body := [] }
  | ['b', 'r'] => some { isBytes := true, isRaw := true, body := [] }
  | ['r', 'b'] => some { isBytes := true, isRaw := true, body := [] }
  | ['f', 'r'] => some { isTemplate := true, isRaw := true, body := [] }
  | ['r', 'f'] => some { isTemplate := true, isRaw := true, body := [] }
  | _ => none

/-- The body of a literal up to its closing quotes; one that is not tripled ends with its line. -/
def body? (quotes : List Char) (isLong : Bool) : Nat → List Char → Option (List Char)
  | 0, _ => none
  | fuel + 1, text =>
      if quotes.isPrefixOf text then some []
      else
        match text with
        | [] => none
        | '\\' :: '\r' :: '\n' :: rest =>
            (body? quotes isLong fuel rest).map (['\\', '\r', '\n'] ++ ·)
        | '\\' :: c :: rest => (body? quotes isLong fuel rest).map (['\\', c] ++ ·)
        | c :: rest =>
            if !isLong && (c = '\n' || c = '\r') then none
            else (body? quotes isLong fuel rest).map (c :: ·)

/-- The string literal whose letters, `before` characters long, have been passed. -/
def quoted? (letters text : List Char) : Option (Quoted × Nat) :=
  match literalOf? letters, text with
  | some literal, quote :: _ =>
      let isLong := [quote, quote, quote].isPrefixOf text
      let quotes := if isLong then [quote, quote, quote] else [quote]
      let inside := text.drop quotes.length
      (body? quotes isLong (inside.length + 1) inside).map fun body =>
        ({ literal with body := Text.unifyLineEnds body },
          letters.length + body.length + 2 * quotes.length)
  | _, _ => none

def isQuote (c : Char) : Bool :=
  c = '"' || c = '\''

def isWordStart (c : Char) : Bool :=
  c.isAlpha || c = '_' || 127 < c.toNat

def isWordPart (c : Char) : Bool :=
  c.isAlphanum || c = '_' || 127 < c.toNat

def isName (word : List Char) : Bool :=
  match word with
  | [] => false
  | c :: rest => Text.isNameStart c && rest.all Text.isNamePart

/-- The word at the start of a text, or the string literal whose letters it is. -/
def word? (text : List Char) : Option (Token × Nat) :=
  let word := text.takeWhile isWordPart
  let rest := text.drop word.length
  if (rest.head?.map isQuote).getD false && (literalOf? word).isSome then
    (quoted? word rest).map fun (literal, size) => (.quoted literal, size)
  else if isName word then some (.word (String.ofList word), word.length)
  else none

def mark? (text : List Char) : Option String :=
  marks.find? (·.toList.isPrefixOf text)

/-- Follows the brackets: what closes must be what is open. -/
def follow? (brackets : List Char) (c : Char) : Option (List Char) :=
  match closing? c with
  | some closer => if mostBrackets ≤ brackets.length then none else some (closer :: brackets)
  | none =>
      if isClosing c then
        match brackets with
        | expected :: outer => if expected = c then some outer else none
        | [] => none
      else some brackets

def isNumberStart (text : List Char) : Bool :=
  match text with
  | '.' :: c :: _ => c.isDigit
  | c :: _ => c.isDigit
  | [] => false

/-- One step inside a line that does not end here. -/
def token? (lexer : Lexer) : Option Lexer :=
  match lexer.rest with
  | [] => none
  | c :: _ =>
      if isNumberStart lexer.rest then
        (Numeral.read? lexer.rest).map fun (value, rest) =>
          lexer.emit (.number value) (lexer.rest.length - rest.length)
      else if isWordStart c then
        (word? lexer.rest).map fun (token, size) => lexer.emit token size
      else if isQuote c then
        (quoted? [] lexer.rest).map fun (literal, size) => lexer.emit (.quoted literal) size
      else
        match mark? lexer.rest, follow? lexer.brackets c with
        | some mark, some brackets =>
            some { lexer.emit (.mark mark) mark.length with brackets }
        | _, _ => none

def step? (lexer : Lexer) : Option Lexer :=
  if lexer.atLineStart then lexer.startLine
  else
    match lexer.rest with
    | [] => none
    | c :: _ =>
        if isGap c then some (lexer.advance 1)
        else if c = '#' then some (lexer.advance (commentSize lexer.rest))
        else
          match lineEnd? lexer.rest, joint? lexer.rest with
          | some size, _ => some (lexer.endLine size)
          | none, some size => some (lexer.advance size)
          | none, none => lexer.token?

/-- The tokens of a text that has been gone through: its last line ends, and its blocks close. -/
def finish (lexer : Lexer) : Option (List Lexeme) :=
  if !lexer.brackets.isEmpty then none
  else
    let lexer := if lexer.atLineStart then lexer else lexer.endLine 0
    let here : Span := ⟨lexer.place, lexer.place⟩
    let dedents := List.replicate (lexer.columns.length - 1) (Lexeme.mk .dedent here)
    some (lexer.done.reverse ++ dedents ++ [⟨.finish, here⟩])

def run : Nat → Lexer → Option (List Lexeme)
  | 0, _ => none
  | fuel + 1, lexer =>
      if lexer.rest.isEmpty then lexer.finish
      else
        match lexer.step? with
        | some next => run fuel next
        | none => none

end Lexer

/-- The tokens of a unit text, if it can be cut into any. -/
def lexemes? (text : List Char) : Option (List Lexeme) :=
  Lexer.run (2 * text.length + 3) { rest := text }

/-- The tokens of a text that is a single expression; blanks after its last line end are an
indentation. -/
def expressionLexemes? (text : List Char) : Option (List Lexeme) :=
  Lexer.run (2 * text.length + 3) { rest := text, completes := false }

end ScreenFlow.UnitText
