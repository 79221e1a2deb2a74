/-!
Cutting texts apart.  `splitOn` never loses a character other than the separator
(`intercalate_splitOn`), and `afterLast` is its last piece.
-/

namespace ScreenFlow.Text

/-- The pieces between the separators, also the empty ones; there is always at least one. -/
def splitOn (separator : Char) : List Char → List (List Char)
  | [] => [[]]
  | c :: rest =>
      if c = separator then [] :: splitOn separator rest
      else
        match splitOn separator rest with
        | [] => [[c]]
        | piece :: pieces => (c :: piece) :: pieces

/-- The non-empty pieces between runs of separators. -/
def splitRuns (isSeparator : Char → Bool) (text : List Char) : List (List Char) :=
  go [] text
where
  go (piece : List Char) : List Char → List (List Char)
    | [] => if piece.isEmpty then [] else [piece.reverse]
    | c :: rest =>
        if isSeparator c then
          if piece.isEmpty then go [] rest else piece.reverse :: go [] rest
        else go (c :: piece) rest

/-- What stands after the last separator; the whole text when there is none. -/
def afterLast (separator : Char) (text : List Char) : List Char :=
  (text.reverse.takeWhile (· != separator)).reverse

/-- What stands before the first separator; the whole text when there is none. -/
def beforeFirst (separator : Char) (text : List Char) : List Char :=
  text.takeWhile (· != separator)

/-- The texts before and after the last separator, if there is one. -/
def cutLast? (separator : Char) (text : List Char) : Option (List Char × List Char) :=
  let last := afterLast separator text
  if last.length < text.length then some (text.take (text.length - last.length - 1), last)
  else none

/-- The texts before and after the first separator, if there is one. -/
def cutFirst? (separator : Char) (text : List Char) : Option (List Char × List Char) :=
  match text.dropWhile (· != separator) with
  | [] => none
  | _ :: rest => some (beforeFirst separator text, rest)

/-- `piece` stands somewhere in the text. -/
def holds (piece : List Char) : List Char → Bool
  | [] => piece.isEmpty
  | c :: rest => piece.isPrefixOf (c :: rest) || holds piece rest

theorem splitOn_ne_nil (separator : Char) (text : List Char) : splitOn separator text ≠ [] := by
  induction text with
  | nil => simp [splitOn]
  | cons c rest ih =>
      simp only [splitOn]
      split
      · simp
      · split <;> simp

theorem intercalate_splitOn (separator : Char) (text : List Char) :
    [separator].intercalate (splitOn separator text) = text := by
  induction text with
  | nil => rfl
  | cons c rest ih =>
      simp only [splitOn]
      split
      · next heq =>
          subst heq
          cases hpieces : splitOn c rest with
          | nil => exact absurd hpieces (splitOn_ne_nil c rest)
          | cons piece pieces =>
              rw [hpieces] at ih
              simp [List.intercalate, List.intersperse] at ih ⊢
              exact ih
      · next hne =>
          cases hpieces : splitOn separator rest with
          | nil => exact absurd hpieces (splitOn_ne_nil separator rest)
          | cons piece pieces =>
              rw [hpieces] at ih
              cases pieces with
              | nil => simpa [List.intercalate, List.intersperse] using ih
              | cons next more => simpa [List.intercalate, List.intersperse] using ih

end ScreenFlow.Text

namespace ScreenFlow

def startsWith (text start : String) : Bool :=
  start.toList.isPrefixOf text.toList

def endsWith (text ending : String) : Bool :=
  ending.toList.isSuffixOf text.toList

def containsText (text piece : String) : Bool :=
  Text.holds piece.toList text.toList

def replaceChar (text : String) (old : Char) (replacement : String) : String :=
  String.ofList (text.toList.flatMap fun c => if c = old then replacement.toList else [c])

/-- Every backslash turned into a slash. -/
def forwardSlashes (text : String) : String :=
  String.ofList (text.toList.map fun c => if c = '\\' then '/' else c)

def commaSeparated (texts : List String) : String :=
  ", ".intercalate texts

end ScreenFlow
