import ScreenFlow.Text.Blank
import ScreenFlow.Text.Lines
import ScreenFlow.Text.Pieces
import ScreenFlow.Text.Class

/-!
What the text of an entry gives away: accesses to a field of the event or to a collection of the
context, and operations on whole collections.
-/

namespace ScreenFlow.Entry

/-- The longest word at the start of a text, if it has any characters. -/
def word? (text : List Char) : Option (List Char × List Char) :=
  match text.takeWhile Text.isWord with
  | [] => none
  | word => some (word, text.dropWhile Text.isWord)

def isQuote (c : Char) : Bool :=
  c = '"' || c = '\''

/-- A word in quotes, after blanks. -/
def quotedWord? (text : List Char) : Option (List Char × List Char) :=
  match Text.trimLeft text with
  | quote :: rest =>
      if isQuote quote then
        match word? rest with
        | some (word, closing :: after) => if isQuote closing then some (word, after) else none
        | _ => none
      else none
  | [] => none

/-- A quoted word in brackets. -/
def bracketedWord? (text : List Char) : Option (List Char × List Char) :=
  match text with
  | '[' :: rest =>
      match quotedWord? rest with
      | some (word, after) =>
          match Text.trimLeft after with
          | ']' :: more => some (word, more)
          | _ => none
      | none => none
  | _ => none

def after? (start : String) (text : List Char) : Option (List Char) :=
  if start.toList.isPrefixOf text then some (text.drop start.length) else none

/-- The field that the start of a text reads from the event. -/
def eventField? (text : List Char) : Option (List Char × List Char) := do
  let rest ← after? "event" text
  match rest with
  | '.' :: access =>
      match (after? "get(" access).bind quotedWord? with
      | some found => some found
      | none => word? access
  | _ => bracketedWord? rest

/-- The collection that the start of a text reads from the context. -/
def contextCollection? (text : List Char) : Option (List Char × List Char) := do
  let rest ← after? "context" text
  match rest with
  | '.' :: access => word? access
  | _ => bracketedWord? rest

/-- The first place in a text at which something is found. -/
def search (find : List Char → Option (List Char × List Char)) : List Char → Option (List Char)
  | [] => (find []).map (·.1)
  | c :: rest =>
      match find (c :: rest) with
      | some (found, _) => some found
      | none => search find rest

/-- All that is found in a text, going on behind each find; `skip` characters are passed over. -/
def searchAll (find : List Char → Option (List Char × List Char)) (skip : Nat) :
    List Char → List (List Char)
  | [] => []
  | c :: rest =>
      match skip with
      | skip + 1 => searchAll find skip rest
      | 0 =>
          match find (c :: rest) with
          | some (found, after) => found :: searchAll find (rest.length - after.length) rest
          | none => searchAll find 0 rest

/-- The words of a text, cut at everything else. -/
def wordsOf (text : List Char) : List String :=
  (Text.splitRuns (fun c => !Text.isWord c) text).map String.ofList

def isCollectionWord (word : String) : Bool :=
  ["map", "filter", "forEach"].contains word

/-- A loop or comprehension on one line. -/
def hasLoop (line : List Char) : Bool :=
  ((wordsOf line).dropWhile (· != "for")).drop 1 |>.contains "in"

/-- The text works on a collection and on single elements of it. -/
def worksOnElements (text : String) : Bool :=
  let chars := text.toList
  chars.contains '[' &&
    ((wordsOf chars).any isCollectionWord || (Text.splitOn '\n' chars).any hasLoop)

end ScreenFlow.Entry
