import ScreenFlow.UnitText.Token

/-!
The lines of a text that define a function.  A function with a name is listed from its first
decorator to its last statement, with the comments that belong to its block; one without a name is
listed as the line it stands on, up to the first line end that is not inside a bracket opened since.
-/

namespace ScreenFlow.UnitText.Listing

/-- The start of the line that a place is on. -/
def lineStart (text : List Char) (place : Nat) : Nat :=
  place - ((text.take place).reverse.takeWhile (· != '\n')).length

/-- The end of the line that a place is on, behind its line end. -/
def lineStop (text : List Char) (place : Nat) : Nat :=
  place + ((text.drop place).takeWhile (· != '\n')).length + 1

/-- Whole lines; a last line without a line end gets one. -/
def lines (text : List Char) (start stop : Nat) : String :=
  let found := (text.drop start).take (stop - start)
  String.ofList (if found.getLast? = some '\n' then found else found ++ ['\n'])

def isGap (c : Char) : Bool :=
  c = ' ' || c = '\t'

/-- How many characters from a line start on still belong to a block of the given column: lines up
to its last comment, before anything that is neither blank nor a comment. -/
def trailing (column : Nat) : Nat → List Char → Nat
  | 0, _ => 0
  | fuel + 1, text =>
      let line := text.takeWhile (· != '\n')
      let rest := text.drop (line.length + 1)
      let gap := (line.takeWhile isGap).length
      if text.isEmpty then 0
      else
        match line.drop gap with
        | [] => more (line.length + 1) (trailing column fuel rest)
        | '#' :: _ =>
            if column ≤ gap then line.length + 1 + trailing column fuel rest
            else more (line.length + 1) (trailing column fuel rest)
        | _ => 0
where
  /-- A line counts when something behind it does. -/
  more (size behind : Nat) : Nat :=
    if behind = 0 then 0 else size + behind

/-- The column of the block of a function, when it has lines of its own. -/
def blockColumn? (text : List Char) (lexemes : List Lexeme) (span : Span) : Option Nat :=
  (lexemes.find? fun lexeme =>
      lexeme.token = .indent && span.start < lexeme.span.start).bind fun lexeme =>
    if lexeme.span.start < span.stop then
      some (lexeme.span.start - lineStart text lexeme.span.start)
    else none

def named (text : List Char) (lexemes : List Lexeme) (whole : Span) : String :=
  let start := lineStart text whole.start
  let stop := lineStop text whole.stop
  let extra :=
    match blockColumn? text lexemes whole with
    | some column => trailing column (text.length + 1) (text.drop stop)
    | none => 0
  lines text start (stop + extra)

/-- Brackets opened less brackets closed by a token. -/
def depthChange : Token → Int
  | .mark "(" => 1
  | .mark "[" => 1
  | .mark "\x7b" => 1
  | .mark ")" => -1
  | .mark "]" => -1
  | .mark "\x7d" => -1
  | _ => 0

/-- The place at which the first token ends that is the last one of its line and has no bracket open
behind it. -/
def lineEndPlace (text : List Char) (depth : Int) : List Lexeme → Nat → Nat
  | [], stop => stop
  | lexeme :: rest, _ =>
      let depth := depth + depthChange lexeme.token
      let isLast :=
        match rest with
        | [] => true
        | following :: _ =>
            following.token = .newline ||
              lineStop text lexeme.span.stop ≤ following.span.start
      if depth ≤ 0 && isLast then lexeme.span.stop
      else lineEndPlace text depth rest lexeme.span.stop

def unnamed (text : List Char) (lexemes : List Lexeme) (span : Span) : String :=
  let start := lineStart text span.start
  let stop := lineEndPlace text 0 (lexemes.filter fun lexeme => start ≤ lexeme.span.start)
    span.stop
  lines text start (lineStop text stop)

end ScreenFlow.UnitText.Listing
