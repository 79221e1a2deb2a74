/-!
Blank characters and trimming.  Trimming a text removes exactly its leading and trailing blanks.
-/

namespace ScreenFlow.Text

/-- Spaces, line ends and separators of every script. -/
def isBlank (c : Char) : Bool :=
  let n := c.toNat
  (9 ≤ n && n ≤ 13) || (28 ≤ n && n ≤ 32) || n == 0x85 || n == 0xA0 || n == 0x1680 ||
    (0x2000 ≤ n && n ≤ 0x200A) || n == 0x2028 || n == 0x2029 || n == 0x202F || n == 0x205F ||
    n == 0x3000

def trimLeft (text : List Char) : List Char :=
  text.dropWhile isBlank

def trimRight (text : List Char) : List Char :=
  (text.reverse.dropWhile isBlank).reverse

def trim (text : List Char) : List Char :=
  trimRight (trimLeft text)

/-- A text without any character that is not blank. -/
def allBlank (text : List Char) : Bool :=
  text.all isBlank

@[simp] theorem trim_nil : trim [] = [] := rfl

theorem isBlank_of_isWhitespace {c : Char} (hspace : c.isWhitespace = true) :
    isBlank c = true := by
  simp only [Char.isWhitespace, Bool.or_eq_true, decide_eq_true_eq] at hspace
  rcases hspace with ((h | h) | h) | h <;> subst h <;> decide

end ScreenFlow.Text

namespace ScreenFlow

/-- The text without the blanks at its two ends. -/
def trimmed (text : String) : String :=
  String.ofList (Text.trim text.toList)

def trimmedRight (text : String) : String :=
  String.ofList (Text.trimRight text.toList)

def isBlankText (text : String) : Bool :=
  Text.allBlank text.toList

end ScreenFlow
