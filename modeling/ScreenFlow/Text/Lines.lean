/-!
Line ends.  `splitLines` cuts a text at every line boundary and drops the boundary itself; a text
that ends in a boundary has no empty last line.  `unifyLineEnds` is what reading a text file does:
a carriage return, alone or before a line feed, becomes one line feed.
-/

namespace ScreenFlow.Text

/-- Characters that end a line by themselves. -/
def isLineEnd (c : Char) : Bool :=
  let n := c.toNat
  (10 ≤ n && n ≤ 13) || (28 ≤ n && n ≤ 30) || n == 0x85 || n == 0x2028 || n == 0x2029

/-- `line` holds the characters of the current line, the last one first. -/
def splitLinesAux (line : List Char) : List Char → List (List Char)
  | [] => if line.isEmpty then [] else [line.reverse]
  | '\r' :: '\n' :: rest => line.reverse :: splitLinesAux [] rest
  | c :: rest =>
      if isLineEnd c then line.reverse :: splitLinesAux [] rest
      else splitLinesAux (c :: line) rest

def splitLines (text : List Char) : List (List Char) :=
  splitLinesAux [] text

def unifyLineEnds : List Char → List Char
  | [] => []
  | '\r' :: '\n' :: rest => '\n' :: unifyLineEnds rest
  | c :: rest => (if c = '\r' then '\n' else c) :: unifyLineEnds rest

@[simp] theorem splitLines_nil : splitLines [] = [] := rfl

end ScreenFlow.Text

namespace ScreenFlow

def linesOf (text : String) : List String :=
  (Text.splitLines text.toList).map String.ofList

end ScreenFlow
