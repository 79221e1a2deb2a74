import ScreenFlow.UnitText.Expr.Reader

/-!
Statements of unit texts, and their reading.  Of statements that a unit is not made of, only their
presence is kept.  A block is either an indented group of lines or the rest of the line.
-/

namespace ScreenFlow.UnitText

inductive Statement where
  /-- The value goes to every target, from left to right. -/
  | assign (targets : List Expr) (value : Expr)
  | annotated (target annotation : Expr) (value : Option Expr)
  | augmented (target : Expr) (op : Binary) (value : Expr)
  | evaluate (value : Expr)
  /-- A function.  `whole` starts at its first decorator, `span` behind the last one. -/
  | function (name : String) (whole span : Span) (decorators : List Expr)
    (parameters : List Parameter) (annotations : List Expr) (body : List Statement)
  | unit (name : String) (decorators : List Expr) (operands : List CallOperand)
    (body : List Statement)
  | branch (condition : Expr) (body orElse : List Statement)
  /-- The end of a function, with its result if it gives one. -/
  | result (value : Option Expr)
  | pass
  | other

instance : Inhabited Statement := ⟨.other⟩

namespace Statement

/-- The names that a single assignment gives a value, and the value. -/
def assigned : Statement → List String × Option Expr
  | assign targets value => (targets.filterMap Expr.name?, some value)
  | annotated target _ value =>
      match target.name? with
      | some name => ([name], value)
      | none => ([], none)
  | _ => ([], none)

end Statement

namespace Reader

/-- Operators that change a place by a value. -/
def augmentations : List (String × Binary) := [
  ("+=", .add), ("-=", .sub), ("*=", .mul), ("/=", .div), ("//=", .floorDiv), ("%=", .mod),
  ("@=", .matMul), ("&=", .bitAnd), ("|=", .bitOr), ("^=", .bitXor), ("<<=", .shiftLeft),
  (">>=", .shiftRight), ("**=", .pow)]

/-- Expressions on the right of an assignment. -/
def assignedValue (fuel : Nat) : Reader Expr := do
  if ← nextIsWord "yield" then yielded fuel else expressions fuel

/-- The further targets and the value of an assignment, behind its first equals sign. -/
def assignment : Nat → List Expr → Reader Statement
  | 0, _ => failure
  | fuel + 1, targets => do
      let value ← assignedValue fuel
      if ← acceptMark "=" then
        if value.isTarget then assignment fuel (targets ++ [value]) else failure
      else return .assign targets value

/-- An expression, or an assignment of one of three kinds. -/
def expressionStatement (fuel : Nat) : Reader Statement := do
  if ← nextIsWord "yield" then
    let value ← yielded fuel
    if ← nextIsMark "=" then failure else return .evaluate value
  else
    let value ← expressions fuel
    match ← peek with
    | .mark "=" => do
        let _ ← next
        if value.isTarget then assignment fuel [value] else failure
    | .mark ":" => do
        let _ ← next
        if !value.isPlace then failure
        let annotation ← expression fuel
        let given ← if ← acceptMark "=" then do pure (some (← assignedValue fuel)) else pure none
        return .annotated value annotation given
    | .mark text =>
        match augmentations.lookup text with
        | some op => do
            let _ ← next
            if value.isPlace then return .augmented value op (← assignedValue fuel) else failure
        | none => return .evaluate value
    | _ => return .evaluate value

def dottedName : Nat → Reader Unit
  | 0 => failure
  | fuel + 1 => do
      let _ ← name
      if ← acceptMark "." then dottedName fuel else return ()

def renamed (item : Reader Unit) : Reader Unit := do
  item
  if ← acceptWord "as" then
    let _ ← name
  return ()

def skipDots : Nat → Bool → Reader Bool
  | 0, found => return found
  | fuel + 1, found => do
      if (← acceptMark ".") || (← acceptMark "...") then skipDots fuel true else return found

def importedNames (fuel : Nat) : Reader Unit := do
  if ← acceptMark "*" then return ()
  else if ← acceptMark "(" then
    let _ ← commaList endsList (renamed (name *> pure ())) fuel
    mark ")"
  else
    let _ ← commaList (fun _ => false) (renamed (name *> pure ())) fuel

def names (fuel : Nat) : Reader Unit := do
  let _ ← commaList (fun _ => false) name fuel

/-- A statement that begins with a word of its own and fits on a line. -/
def wordStatement? (fuel : Nat) : Token → Option (Reader Statement)
  | .word "pass" => some (next *> pure .pass)
  | .word "break" => some (next *> pure .other)
  | .word "continue" => some (next *> pure .other)
  | .word "return" => some do
      let _ ← next
      if endsList (← peek) then return .result none
      return .result (some (← expressions fuel))
  | .word "raise" => some do
      let _ ← next
      if endsList (← peek) then return .other
      let _ ← expression fuel
      if ← acceptWord "from" then
        let _ ← expression fuel
      return .other
  | .word "global" => some (next *> names fuel *> pure .other)
  | .word "nonlocal" => some (next *> names fuel *> pure .other)
  | .word "assert" => some do
      let _ ← next
      let _ ← expression fuel
      if ← acceptMark "," then
        let _ ← expression fuel
      return .other
  | .word "del" => some do
      let _ ← next
      let removed ← expressions fuel
      if removed.isDeletable then return .other else failure
  | .word "import" => some do
      let _ ← next
      let _ ← commaList (fun _ => false) (renamed (dottedName fuel)) fuel
      return .other
  | .word "from" => some do
      let _ ← next
      let hasDots ← skipDots fuel false
      if !hasDots || !(← nextIsWord "import") then dottedName fuel
      word "import"
      importedNames fuel
      return .other
  | _ => none

def simpleStatement (fuel : Nat) : Reader Statement := do
  match wordStatement? fuel (← peek) with
  | some statement => statement
  | none => expressionStatement fuel

/-- The statements of a line, which semicolons separate. -/
def line : Nat → Reader (List Statement)
  | 0 => failure
  | fuel + 1 => do
      let first ← simpleStatement fuel
      if ← acceptMark ";" then
        if ← accept .newline then return [first] else return first :: (← line fuel)
      else
        expect .newline
        return [first]

/-- What a loop or a context gives a name to. -/
def contextItem (fuel : Nat) : Reader Unit := do
  let _ ← expression fuel
  if ← acceptWord "as" then
    let _ ← target fuel
  return ()

/-- The contexts of a block, in brackets or without. -/
def contexts (fuel : Nat) : Reader Unit :=
  (do
    mark "("
    let _ ← commaList endsList (contextItem fuel) fuel
    mark ")"
    if ← nextIsMark ":" then return () else failure) <|>
  (do
    let _ ← commaList (fun _ => false) (contextItem fuel) fuel)

def decoratorList : Nat → Reader (List Expr)
  | 0 => failure
  | fuel + 1 => do
      if ← acceptMark "@" then
        let decorator ← named fuel
        expect .newline
        return decorator :: (← decoratorList fuel)
      else return []

mutual
def statement : Nat → Reader (List Statement)
  | 0 => failure
  | fuel + 1 => do
      let start ← place
      match ← peek with
      | .word "if" => do
          let _ ← next
          return [← branch fuel]
      | .word "while" => do
          let _ ← next
          let _ ← named fuel
          let _ ← block fuel
          let _ ← orElse fuel
          return [.other]
      | .word "for" => do
          let _ ← next
          loop fuel
      | .word "try" => do
          let _ ← next
          attempt fuel
      | .word "with" => do
          let _ ← next
          contexts fuel
          let _ ← block fuel
          return [.other]
      | .word "async" =>
          match ← peekSecond with
          | .word "def" => return [← definition start [] fuel]
          | _ => do
              let _ ← next
              if (← nextIsWord "for") || (← nextIsWord "with") then statement fuel else failure
      | .word "def" => return [← definition start [] fuel]
      | .word "class" => return [← definition start [] fuel]
      | .mark "@" => do
          let decorators ← decoratorList fuel
          return [← definition start decorators fuel]
      | _ => line fuel

/-- A conditional block behind its first word. -/
def branch : Nat → Reader Statement
  | 0 => failure
  | fuel + 1 => do
      let condition ← named fuel
      let body ← block fuel
      if ← acceptWord "elif" then return .branch condition body [← branch fuel]
      else return .branch condition body (← orElse fuel)

def orElse : Nat → Reader (List Statement)
  | 0 => failure
  | fuel + 1 => do
      if ← acceptWord "else" then block fuel else return []

def loop : Nat → Reader (List Statement)
  | 0 => failure
  | fuel + 1 => do
      let _ ← targets fuel
      word "in"
      let _ ← expressions fuel
      let _ ← block fuel
      let _ ← orElse fuel
      return [.other]

/-- A guarded block: it has handlers, or a last block, or both. -/
def attempt : Nat → Reader (List Statement)
  | 0 => failure
  | fuel + 1 => do
      let _ ← block fuel
      let hasHandlers ← handlers fuel
      if hasHandlers then
        let _ ← orElse fuel
      if ← acceptWord "finally" then
        let _ ← block fuel
        return [.other]
      else if hasHandlers then return [.other]
      else failure

def handlers : Nat → Reader Bool
  | 0 => failure
  | fuel + 1 => do
      if ← acceptWord "except" then
        let isGroup ← acceptMark "*"
        if (← nextIsMark ":") && !isGroup then
          pure ()
        else
          let _ ← expression fuel
          if ← acceptWord "as" then
            let _ ← name
        let _ ← block fuel
        let _ ← handlers fuel
        return true
      else return false

/-- A function or a class, behind its decorators. -/
def definition (wholeStart : Nat) (decorators : List Expr) : (fuel : Nat) → Reader Statement
  | 0 => failure
  | fuel + 1 => do
      let start ← place
      if ← acceptWord "class" then
        let title ← name
        let operands ←
          if ← acceptMark "(" then do
            let inner ← operands fuel {}
            mark ")"
            pure inner
          else pure []
        let body ← block fuel
        return .unit title decorators operands body
      else
        let isAsync ← acceptWord "async"
        word "def"
        let title ← name
        mark "("
        let (found, annotations) ← parameters true ")" fuel {}
        mark ")"
        let result ← if ← acceptMark "->" then do pure [← expression fuel] else pure []
        let body ← block fuel
        let stop := (← get).stop
        return .function title ⟨wholeStart, stop⟩ ⟨start, stop⟩ decorators found
          (annotations ++ result) (if isAsync then [.other] else body)
termination_by structural fuel => fuel

/-- A block behind the words that it belongs to. -/
def block : Nat → Reader (List Statement)
  | 0 => failure
  | fuel + 1 => do
      mark ":"
      if ← accept .newline then
        expect .indent
        let body ← statements fuel
        expect .dedent
        if body.isEmpty then failure else return body
      else line fuel

/-- Statements up to the end of a block or of the text. -/
def statements : Nat → Reader (List Statement)
  | 0 => failure
  | fuel + 1 => do
      match ← peek with
      | .finish => return []
      | .dedent => return []
      | _ => return (← statement fuel) ++ (← statements fuel)
end

end Reader

/-- The statements of a unit text. -/
def statements? (text : List Char) : Option (List Statement) := do
  let lexemes ← lexemes? text
  let (found, cursor) ← (Reader.statements (Reader.fuelFor text)).run { rest := lexemes }
  if cursor.rest.length = 1 then return found else none

end ScreenFlow.UnitText
