import ScreenFlow.Text.Pieces

/-!
The parts of a field of a text template that are cut apart before its expression is read: the source
of the expression, the mark that asks for the source to be shown, and the conversion.
-/

namespace ScreenFlow.UnitText.Field

def isSpace (c : Char) : Bool :=
  c = ' ' || c = '\t' || c = '\n' || c = '\r' || c = Char.ofNat 12 || c = Char.ofNat 11

/-- Where the scan for the end of an expression stands: the quotes it is inside of, and the brackets
that have to close what is open. -/
structure Scan where
  quotes : List Char := []
  brackets : List Char := []

def closing? : Char → Option Char
  | '(' => some ')'
  | '[' => some ']'
  | '\x7b' => some '\x7d'
  | _ => none

/-- A mark that ends an expression when it stands outside of brackets. -/
def endsSource (c : Char) : Bool :=
  c = '!' || c = ':' || c = '\x7d' || c = '='

def isComparison (c next : Char) : Bool :=
  next = '=' && (c = '!' || c = '=' || c = '<' || c = '>')

/-- The source of an expression, the last character first, and what follows it.  It holds no
backslash and no comment, and its quotes and brackets fit together. -/
def scan : Nat → Scan → List Char → List Char → Option (List Char × List Char)
  | 0, _, _, _ => none
  | fuel + 1, state, read, text =>
      match text with
      | [] => none
      | c :: rest =>
          if c = '\\' then none
          else
            match state.quotes with
            | _ :: _ =>
                if state.quotes.isPrefixOf text then
                  scan fuel { state with quotes := [] } (state.quotes ++ read)
                    (text.drop state.quotes.length)
                else scan fuel state (c :: read) rest
            | [] =>
                if c = '"' || c = '\'' then
                  let quotes := if [c, c, c].isPrefixOf text then [c, c, c] else [c]
                  scan fuel { state with quotes } (quotes ++ read) (text.drop quotes.length)
                else
                  match closing? c, state.brackets with
                  | some closer, brackets =>
                      scan fuel { state with brackets := closer :: brackets } (c :: read) rest
                  | none, expected :: outer =>
                      if c = '#' then none
                      else if c = expected then
                        scan fuel { state with brackets := outer } (c :: read) rest
                      else if c = ')' || c = ']' || c = '\x7d' then none
                      else scan fuel state (c :: read) rest
                  | none, [] =>
                      match rest with
                      | next :: after =>
                          if isComparison c next then
                            scan fuel state (next :: c :: read) after
                          else if endsSource c then some (read, text)
                          else if c = '#' || c = ')' || c = ']' then none
                          else scan fuel state (c :: read) rest
                      | [] => if endsSource c then some (read, text) else none

/-- The source of the expression at the start of a text, which is not blank, and what follows. -/
def source? (text : List Char) : Option (List Char × List Char) :=
  match scan (text.length + 1) {} [] text with
  | some (read, rest) => if read.all isSpace then none else some (read.reverse, rest)
  | none => none

/-- With an equals sign behind it, the source is shown as it stands, with the sign and the blanks
behind it. -/
def label (source rest : List Char) : String × List Char :=
  match rest with
  | '=' :: more =>
      (String.ofList (source ++ ['='] ++ more.takeWhile isSpace), more.dropWhile isSpace)
  | rest => ("", rest)

def conversion? (text : List Char) : Option (Option Char × List Char) :=
  match text with
  | '!' :: c :: rest => if c = 's' || c = 'r' || c = 'a' then some (some c, rest) else none
  | '!' :: [] => none
  | text => some (none, text)

end ScreenFlow.UnitText.Field
