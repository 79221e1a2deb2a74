import ScreenFlow.Template
import ScreenFlow.Text.Blank
import ScreenFlow.Text.Class
import ScreenFlow.Text.Lines

/-!
Reading templates that hold text and expressions in double braces.  An expression is a name, a text
or a number, with attributes, helpers applied as filters or calls, `~` between texts and `or` for a
value in place of one that does not count.  A template with a statement tag is not read.
-/

namespace ScreenFlow.Template

inductive Token where
  | name (text : String)
  | text (value : String)
  | number (value : Int)
  | mark (c : Char)
  deriving DecidableEq, Repr

/-- The tokens of an expression; none when a character fits none. -/
def tokens? : Nat → List Char → Option (List Token)
  | 0, _ => none
  | fuel + 1, chars =>
      match chars with
      | [] => some []
      | c :: rest =>
          if Text.isBlank c then tokens? fuel rest
          else if c = '"' || c = '\'' then
            let value := rest.takeWhile (· != c)
            match rest.dropWhile (· != c) with
            | [] => none
            | _ :: after => (tokens? fuel after).map (.text (String.ofList value) :: ·)
          else if c.isDigit then
            let digits := chars.takeWhile Char.isDigit
            (tokens? fuel (chars.dropWhile Char.isDigit)).map
              (.number ((Text.decimalNumber? digits).getD 0) :: ·)
          else if Text.isNameStart c then
            (tokens? fuel (chars.dropWhile Text.isNamePart)).map
              (.name (String.ofList (chars.takeWhile Text.isNamePart)) :: ·)
          else if ['(', ')', '.', '|', '~', ','].contains c then
            (tokens? fuel rest).map (.mark c :: ·)
          else none

def constant? : String → Option Value
  | "true" => some (.bool true)
  | "True" => some (.bool true)
  | "false" => some (.bool false)
  | "False" => some (.bool false)
  | "none" => some .null
  | "None" => some .null
  | _ => none

def nameExpr (name : String) : Expr :=
  match constant? name with
  | some value => .literal value
  | none => .name name

/-- A call of a helper, or of a name that is none. -/
def callExpr (name : String) (operands : List Expr) : Expr :=
  match Helper.names.lookup name with
  | some helper => .apply helper operands
  | none => .callName name

mutual
/-- An expression and the tokens behind it. -/
def expr? : Nat → List Token → Option (Expr × List Token)
  | 0, _ => none
  | fuel + 1, tokens => do
      let (left, rest) ← concat? fuel tokens
      orRest? fuel left rest

def orRest? : Nat → Expr → List Token → Option (Expr × List Token)
  | 0, _, _ => none
  | fuel + 1, left, tokens =>
      match tokens with
      | .name "or" :: rest => do
          let (right, rest) ← concat? fuel rest
          orRest? fuel (.orElse left right) rest
      | _ => some (left, tokens)

def concat? : Nat → List Token → Option (Expr × List Token)
  | 0, _ => none
  | fuel + 1, tokens => do
      let (left, rest) ← filtered? fuel tokens
      concatRest? fuel left rest

def concatRest? : Nat → Expr → List Token → Option (Expr × List Token)
  | 0, _, _ => none
  | fuel + 1, left, tokens =>
      match tokens with
      | .mark '~' :: rest => do
          let (right, rest) ← filtered? fuel rest
          concatRest? fuel (.concat left right) rest
      | _ => some (left, tokens)

def filtered? : Nat → List Token → Option (Expr × List Token)
  | 0, _ => none
  | fuel + 1, tokens =>
      match tokens with
      | .name name :: .mark '(' :: rest => do
          let (operands, rest) ← operands? fuel rest
          filterRest? fuel (callExpr name operands) rest
      | .name "or" :: _ => none
      | .name name :: rest => filterRest? fuel (nameExpr name) rest
      | .text value :: rest => filterRest? fuel (.literal (.text value)) rest
      | .number value :: rest => filterRest? fuel (.literal (.int value)) rest
      | .mark '(' :: rest => do
          match ← expr? fuel rest with
          | (inner, .mark ')' :: rest) => filterRest? fuel inner rest
          | _ => none
      | _ => none

/-- Attributes and filters behind an expression. -/
def filterRest? : Nat → Expr → List Token → Option (Expr × List Token)
  | 0, _, _ => none
  | fuel + 1, inner, tokens =>
      match tokens with
      | .mark '.' :: .name name :: rest => filterRest? fuel (.attribute inner name) rest
      | .mark '.' :: _ => none
      | .mark '|' :: .name name :: .mark '(' :: rest => do
          let helper ← Helper.filterNames.lookup name
          let (operands, rest) ← operands? fuel rest
          filterRest? fuel (.apply helper (inner :: operands)) rest
      | .mark '|' :: .name name :: rest => do
          let helper ← Helper.filterNames.lookup name
          filterRest? fuel (.apply helper [inner]) rest
      | .mark '|' :: _ => none
      | _ => some (inner, tokens)

/-- The operands up to the closing parenthesis. -/
def operands? : Nat → List Token → Option (List Expr × List Token)
  | 0, _ => none
  | fuel + 1, tokens =>
      match tokens with
      | .mark ')' :: rest => some ([], rest)
      | _ => do
          match ← expr? fuel tokens with
          | (operand, .mark ')' :: rest) => some ([operand], rest)
          | (operand, .mark ',' :: rest) =>
              let (operands, rest) ← operands? fuel rest
              some (operand :: operands, rest)
          | _ => none
end

/-- The expression a text spells. -/
def readExpr? (chars : List Char) : Option Expr := do
  let tokens ← tokens? (chars.length + 1) chars
  match ← expr? (8 * tokens.length + 8) tokens with
  | (expr, []) => some expr
  | _ => none

/-- The text up to a closing mark of two characters, and what follows the mark. -/
def upTo? (first second : Char) : List Char → Option (List Char × List Char)
  | c :: d :: rest =>
      if c = first && d = second then some ([], rest)
      else (upTo? first second (d :: rest)).map fun found => (c :: found.1, found.2)
  | _ => none

def consText (c : Char) : List Node → List Node
  | .text text :: rest => .text (String.ofList [c] ++ text) :: rest
  | nodes => .text (String.ofList [c]) :: nodes

def nodes? : Nat → List Char → Option (List Node)
  | 0, _ => none
  | fuel + 1, chars =>
      match chars with
      | [] => some []
      | '\x7b' :: '\x7b' :: rest => do
          let (inner, after) ← upTo? '\x7d' '\x7d' rest
          let expr ← readExpr? inner
          return .output expr :: (← nodes? fuel after)
      | '\x7b' :: '%' :: _ => none
      | '\x7b' :: '#' :: rest => do
          let (_, after) ← upTo? '#' '\x7d' rest
          nodes? fuel after
      | c :: rest => (nodes? fuel rest).map (consText c)

/-- The nodes of a template text. -/
def read? (text : String) : Option (List Node) :=
  let chars := Text.unifyLineEnds text.toList
  nodes? (chars.length + 1) chars

end ScreenFlow.Template
