import ScreenFlow.UnitText.Expr.Field
import ScreenFlow.UnitText.Reading

/-!
Reading expressions.  Operators bind in fixed levels, and all but powers group to the left.  The
fuel bounds how deep the expressions nest and how many stand in a row; the characters of the text
are always enough of it.
-/

namespace ScreenFlow.UnitText

namespace Reader

/-- The operators that group to the left, from the loosest to the tightest. -/
def levels : List (List (String × Binary)) := [
  [("|", .bitOr)],
  [("^", .bitXor)],
  [("&", .bitAnd)],
  [("<<", .shiftLeft), (">>", .shiftRight)],
  [("+", .add), ("-", .sub)],
  [("*", .mul), ("/", .div), ("//", .floorDiv), ("%", .mod), ("@", .matMul)]]

def signs : List (String × Unary) :=
  [("+", .plus), ("-", .minus), ("~", .invert)]

def comparisons : List (String × Comparison) :=
  [("==", .eq), ("!=", .ne), ("<", .lt), ("<=", .le), (">", .gt), (">=", .ge)]

/-- Reads a comparison operator, if one is next. -/
def comparison? : Reader (Option Comparison) := do
  match ← peek with
  | .mark text =>
      match comparisons.lookup text with
      | some op => do
          let _ ← next
          return some op
      | none => return none
  | .word "in" => do
      let _ ← next
      return some .isIn
  | .word "not" =>
      if (← peekSecond) = .word "in" then do
        let _ ← next
        let _ ← next
        return some .notIn
      else return none
  | .word "is" => do
      let _ ← next
      return some (if ← acceptWord "not" then .isNot else .isSame)
  | _ => return none

/-- Reads all string literals in a row. -/
def literals : Nat → Reader (List Quoted)
  | 0 => failure
  | fuel + 1 => do
      match ← peek with
      | .quoted literal => do
          let _ ← next
          return literal :: (← literals fuel)
      | _ => return []

def numeralForm : Numeral → Form
  | .whole n => .scalar (.int n)
  | .fraction x => .scalar (.float x)
  | .imaginary x => .imaginary x

def constants : List (String × Value) :=
  [("None", .null), ("True", .bool true), ("False", .bool false)]

/-- What a parameter list has had so far. -/
structure Parameters where
  hasAny : Bool := false
  hasSlash : Bool := false
  hasStar : Bool := false
  hasDefault : Bool := false
  /-- A star without a name has to be followed by a name. -/
  needsName : Bool := false

/-- Where a part of a template stands: outside of fields, in the format of a field, or in the format
of a field of a format. -/
inductive Depth where
  | outside
  | format
  | innermost
  deriving DecidableEq

/-- Where the format of a field stands; fields do not nest any deeper. -/
def Depth.inner? : Depth → Option Depth
  | outside => some format
  | format => some innermost
  | innermost => none

/-- What has been read of the operands of a call. -/
structure Operands where
  read : List CallOperand := []
  hasNamed : Bool := false
  hasSpreadMap : Bool := false

def startsClause : Reader Bool := do
  return (← nextIsWord "for") || (← nextIsWord "async")

mutual
/-- An expression, or one that is also given a name. -/
def named : Nat → Reader Expr
  | 0 => failure
  | fuel + 1 => do
      let start ← place
      if ← nextBinds ":=" then
        let target ← name
        mark ":="
        spanning start (.bind target (← expression fuel))
      else expression fuel

def expression : Nat → Reader Expr
  | 0 => failure
  | fuel + 1 => do
      let start ← place
      if ← acceptWord "lambda" then
        let (found, _) ← parameters false ":" fuel {}
        mark ":"
        spanning start (.function found (← expression fuel))
      else
        let value ← disjunction fuel
        if ← acceptWord "if" then
          let condition ← disjunction fuel
          word "else"
          spanning start (.choice condition value (← expression fuel))
        else return value

def disjunction : Nat → Reader Expr
  | 0 => failure
  | fuel + 1 => do
      let start ← place
      match ← joined "or" (conjunction fuel) fuel with
      | [operand] => return operand
      | operands => spanning start (.junction false operands)

def conjunction : Nat → Reader Expr
  | 0 => failure
  | fuel + 1 => do
      let start ← place
      match ← joined "and" (inversion fuel) fuel with
      | [operand] => return operand
      | operands => spanning start (.junction true operands)

def inversion : Nat → Reader Expr
  | 0 => failure
  | fuel + 1 => do
      let start ← place
      if ← acceptWord "not" then spanning start (.unary .not (← inversion fuel))
      else
        let first ← level fuel levels
        match ← compared fuel with
        | [] => return first
        | rest => spanning start (.compare first rest)

/-- The operators and operands of a comparison behind its first operand. -/
def compared : Nat → Reader (List (Comparison × Expr))
  | 0 => failure
  | fuel + 1 => do
      match ← comparison? with
      | some op => do
          let operand ← level fuel levels
          return (op, operand) :: (← compared fuel)
      | none => return []

/-- Operands joined by operators of the given levels. -/
def level : Nat → List (List (String × Binary)) → Reader Expr
  | 0, _ => failure
  | fuel + 1, [] => factor fuel
  | fuel + 1, operators :: tighter => do
      let start ← place
      leftChain operators (level fuel tighter) start fuel (← level fuel tighter)

def factor : Nat → Reader Expr
  | 0 => failure
  | fuel + 1 => do
      let start ← place
      let sign :=
        match ← peek with
        | .mark text => signs.lookup text
        | _ => none
      match sign with
      | some op => do
          let _ ← next
          spanning start (.unary op (← factor fuel))
      | none => do
          let base ← awaited fuel
          if ← acceptMark "**" then spanning start (.binary .pow base (← factor fuel))
          else return base

def awaited : Nat → Reader Expr
  | 0 => failure
  | fuel + 1 => do
      let start ← place
      if ← acceptWord "await" then spanning start (.awaited (← primary fuel)) else primary fuel

def primary : Nat → Reader Expr
  | 0 => failure
  | fuel + 1 => do
      let start ← place
      trailers (spanning start) fuel (← atom fuel)

/-- Accesses and calls behind an expression; `close` makes an expression of all that was read. -/
def trailers (close : Form → Reader Expr) : Nat → Expr → Reader Expr
  | 0, _ => failure
  | fuel + 1, owner => do
      if ← acceptMark "." then
        let member ← name
        trailers close fuel (← close (.attribute owner member))
      else if ← acceptMark "(" then
        let inner ← operands fuel {}
        mark ")"
        trailers close fuel (← close (.call owner inner))
      else if ← acceptMark "[" then
        let index ← subscript fuel
        mark "]"
        trailers close fuel (← close (.item owner index))
      else return owner

/-- The operands of a call up to its closing bracket, in the order in which they may stand. -/
def operands : Nat → Operands → Reader (List CallOperand)
  | 0, _ => failure
  | fuel + 1, before => do
      if ← nextIsMark ")" then return before.read.reverse
      else
        let start ← place
        let after : Operands ←
          if ← acceptMark "**" then do
            let value ← expression fuel
            pure { before with read := .spreadMap value :: before.read, hasSpreadMap := true }
          else if ← acceptMark "*" then do
            let value ← expression fuel
            if before.hasSpreadMap then failure
            let spread ← spanning start (.spread value)
            pure { before with read := .positional spread :: before.read }
          else if ← nextBinds "=" then do
            let target ← name
            mark "="
            let value ← expression fuel
            pure { before with read := .named target value :: before.read, hasNamed := true }
          else do
            let value ← named fuel
            if before.hasNamed || before.hasSpreadMap then failure
            if ← startsClause then
              let following ← clauses fuel
              if !before.read.isEmpty || !(← nextIsMark ")") then failure
              let stream ← spanning start (.collect .stream value following)
              pure { before with read := [.positional stream] }
            else pure { before with read := .positional value :: before.read }
        if ← acceptMark "," then operands fuel after
        else if ← nextIsMark ")" then return after.read.reverse
        else failure

/-- What stands in the brackets of an access. -/
def subscript : Nat → Reader Expr
  | 0 => failure
  | fuel + 1 => do
      let start ← place
      match ← commaList endsList (slice fuel) fuel with
      | ([item], false) => if item.isSpread then spanning start (.tuple [item]) else return item
      | (items, _) => spanning start (.tuple items)

def slice : Nat → Reader Expr
  | 0 => failure
  | fuel + 1 => do
      let start ← place
      if ← acceptMark "*" then spanning start (.spread (← level fuel levels))
      else
        let lower ←
          if ← nextIsMark ":" then pure none
          else do pure (some (← named fuel))
        if ← nextIsMark ":" then
          let others ← bounds fuel
          spanning start (.slice (lower :: others))
        else
          match lower with
          | some index => return index
          | none => failure

/-- The bounds of a slice behind the first one. -/
def bounds : Nat → Reader (List (Option Expr))
  | 0 => failure
  | fuel + 1 => do
      if ← acceptMark ":" then
        let isEmpty := (← nextIsMark ":") || (← nextIsMark ",") || (← nextIsMark "]")
        let bound ← if isEmpty then pure none else do pure (some (← expression fuel))
        let rest ← bounds fuel
        if 1 < rest.length then failure else return bound :: rest
      else return []

def atom : Nat → Reader Expr
  | 0 => failure
  | fuel + 1 => do
      let start ← place
      match ← peek with
      | .number numeral => do
          let _ ← next
          spanning start (numeralForm numeral)
      | .quoted _ => do
          let found ← literals fuel
          match quotedForm? fuel found with
          | some form => spanning start form
          | none => failure
      | .word text =>
          match constants.lookup text with
          | some value => do
              let _ ← next
              spanning start (.scalar value)
          | none => do
              let text ← name
              spanning start (.name text)
      | .mark "..." => do
          let _ ← next
          spanning start .ellipsis
      | .mark "(" => do
          let _ ← next
          inParentheses (spanning start) fuel
      | .mark "[" => do
          let _ ← next
          inBrackets (spanning start) fuel
      | .mark "\x7b" => do
          let _ ← next
          inBraces (spanning start) fuel
      | _ => failure

/-- A group, a tuple or a stream, behind its opening bracket. -/
def inParentheses (close : Form → Reader Expr) : Nat → Reader Expr
  | 0 => failure
  | fuel + 1 => do
      if ← acceptMark ")" then close (.tuple [])
      else if ← nextIsWord "yield" then
        let value ← yielded fuel
        mark ")"
        return value
      else
        let first ← spreadOrNamed fuel
        if ← startsClause then
          if first.isSpread then failure
          let following ← clauses fuel
          mark ")"
          close (.collect .stream first following)
        else if ← acceptMark "," then
          let rest ← moreItems ")" fuel
          mark ")"
          close (.tuple (first :: rest))
        else
          mark ")"
          if first.isSpread then failure else return first

/-- Items behind a comma, up to a closing bracket. -/
def moreItems (closing : String) : Nat → Reader (List Expr)
  | 0 => failure
  | fuel + 1 => do
      if ← nextIsMark closing then return []
      else return (← commaList endsList (spreadOrNamed fuel) fuel).1

def inBrackets (close : Form → Reader Expr) : Nat → Reader Expr
  | 0 => failure
  | fuel + 1 => do
      if ← acceptMark "]" then close (.list [])
      else
        let first ← spreadOrNamed fuel
        if ← startsClause then
          if first.isSpread then failure
          let following ← clauses fuel
          mark "]"
          close (.collect .list first following)
        else
          let rest ← if ← acceptMark "," then moreItems "]" fuel else pure []
          mark "]"
          close (.list (first :: rest))

/-- A map or a set, behind its opening bracket. -/
def inBraces (close : Form → Reader Expr) : Nat → Reader Expr
  | 0 => failure
  | fuel + 1 => do
      if ← acceptMark "\x7d" then close (.map [])
      else if ← nextIsMark "**" then
        let entries ← mapEntries fuel
        mark "\x7d"
        close (.map entries)
      else
        let isNamed ← nextBinds ":="
        let first ← spreadOrNamed fuel
        if ← nextIsMark ":" then
          if first.isSpread || isNamed then failure
          mark ":"
          let item ← expression fuel
          if ← startsClause then
            let following ← clauses fuel
            mark "\x7d"
            close (.collectMap first item following)
          else
            let rest ← if ← acceptMark "," then mapEntries fuel else pure []
            mark "\x7d"
            close (.map (.pair first item :: rest))
        else if ← startsClause then
          if first.isSpread then failure
          let following ← clauses fuel
          mark "\x7d"
          close (.collect .set first following)
        else
          let rest ← if ← acceptMark "," then moreItems "\x7d" fuel else pure []
          mark "\x7d"
          close (.set (first :: rest))

def mapEntries : Nat → Reader (List MapEntry)
  | 0 => failure
  | fuel + 1 => do
      if ← nextIsMark "\x7d" then return []
      else
        let entry ←
          if ← acceptMark "**" then do pure (MapEntry.spread (← level fuel levels))
          else do
            let key ← expression fuel
            mark ":"
            pure (MapEntry.pair key (← expression fuel))
        let rest ← if ← acceptMark "," then mapEntries fuel else pure []
        return entry :: rest

def spreadOrNamed : Nat → Reader Expr
  | 0 => failure
  | fuel + 1 => do
      let start ← place
      if ← acceptMark "*" then spanning start (.spread (← level fuel levels)) else named fuel

def spreadOrExpression : Nat → Reader Expr
  | 0 => failure
  | fuel + 1 => do
      let start ← place
      if ← acceptMark "*" then spanning start (.spread (← level fuel levels))
      else expression fuel

/-- Expressions with commas between them are a tuple. -/
def expressions : Nat → Reader Expr
  | 0 => failure
  | fuel + 1 => do
      let start ← place
      match ← commaList endsList (spreadOrExpression fuel) fuel with
      | ([item], false) => return item
      | (items, _) => spanning start (.tuple items)

def yielded : Nat → Reader Expr
  | 0 => failure
  | fuel + 1 => do
      let start ← place
      word "yield"
      if ← acceptWord "from" then spanning start (.yielded (some (← expression fuel)))
      else if endsList (← peek) then spanning start (.yielded none)
      else spanning start (.yielded (some (← expressions fuel)))

/-- The places that a loop assigns to. -/
def targets : Nat → Reader Expr
  | 0 => failure
  | fuel + 1 => do
      let start ← place
      let (items, hasComma) ← commaList endsList (target fuel) fuel
      match items, hasComma with
      | [item], false => return item
      | items, _ => spanning start (.tuple items)

def target : Nat → Reader Expr
  | 0 => failure
  | fuel + 1 => do
      let start ← place
      let found ←
        if ← acceptMark "*" then do spanning start (.spread (← primary fuel)) else primary fuel
      if found.isTarget then return found else failure

/-- The clauses of a comprehension. -/
def clauses : Nat → Reader (List Clause)
  | 0 => failure
  | fuel + 1 => do
      if ← startsClause then
        let _ ← acceptWord "async"
        word "for"
        let place ← targets fuel
        word "in"
        let source ← disjunction fuel
        let filters ← conditions fuel
        return .mk place source filters :: (← clauses fuel)
      else return []

def conditions : Nat → Reader (List Expr)
  | 0 => failure
  | fuel + 1 => do
      if ← acceptWord "if" then
        let condition ← disjunction fuel
        return condition :: (← conditions fuel)
      else return []

/-- The parameters of a list and their annotations, up to what closes it. -/
def parameters (annotated : Bool) (closing : String) :
    Nat → Parameters → Reader (List Parameter × List Expr)
  | 0, _ => failure
  | fuel + 1, before => do
      if ← nextIsMark closing then
        if before.needsName then failure else return ([], [])
      else if ← acceptMark "**" then
        let _ ← name
        let annotations ← annotation annotated fuel
        let _ ← acceptMark ","
        if before.needsName || !(← nextIsMark closing) then failure
        return ([.special none], annotations)
      else
        let (after, found, annotations) : Parameters × List Parameter × List Expr ←
          if ← acceptMark "*" then do
            if before.hasStar then failure
            if isName (← peek) then
              let _ ← name
              pure ({ before with hasStar := true }, [.special none], ← annotation annotated fuel)
            else pure ({ before with hasStar := true, needsName := true }, [.special none], [])
          else if ← acceptMark "/" then do
            if !before.hasAny || before.hasSlash || before.hasStar then failure
            pure ({ before with hasSlash := true }, [], [])
          else do
            let title ← name
            let annotations ← annotation annotated fuel
            let default ← if ← acceptMark "=" then do pure (some (← expression fuel)) else pure none
            if default.isNone && before.hasDefault && !before.hasStar then failure
            let parameter : Parameter :=
              if before.hasStar then .special default else .plain title default
            pure ({ before with
              hasAny := true, needsName := false
              hasDefault := before.hasDefault || default.isSome }, [parameter], annotations)
        if ← acceptMark "," then
          let (more, moreAnnotations) ← parameters annotated closing fuel after
          return (found ++ more, annotations ++ moreAnnotations)
        else if after.needsName || !(← nextIsMark closing) then failure
        else return (found, annotations)

/-- The annotation of a parameter, if it may have one and has one. -/
def annotation (annotated : Bool) : Nat → Reader (List Expr)
  | 0 => failure
  | fuel + 1 => do
      if annotated then
        if ← acceptMark ":" then return [← spreadOrExpression fuel] else return []
      else return []

/-- What string literals in a row are together.  Bytes do not go with text, and one template makes
all of them one. -/
def quotedForm? : Nat → List Quoted → Option Form
  | 0, _ => none
  | fuel + 1, found =>
      if found.any (·.isBytes) then
        if found.all (·.isBytes) then
          (found.mapM Quoted.text?).map fun texts => .bytes (String.join texts)
        else none
      else if found.any (·.isTemplate) then
        (found.mapM fun literal => literalPieces? fuel literal).map fun parts =>
          .template parts.flatten
      else (found.mapM Quoted.text?).map fun texts => .scalar (.text (String.join texts))

def literalPieces? : Nat → Quoted → Option (List Piece)
  | 0, _ => none
  | fuel + 1, literal =>
      if literal.isTemplate then
        match pieces? literal .outside fuel [] literal.body with
        | some (found, []) => some found
        | _ => none
      else literal.text?.map fun text => [.text text]

/-- The parts of a template.  `read` is the text since the last field, its last character first.  A
format inside a field ends at a closing brace; elsewhere braces are doubled to stand for
themselves. -/
def pieces? (literal : Quoted) (depth : Depth) :
    Nat → List Char → List Char → Option (List Piece × List Char)
  | 0, _, _ => none
  | fuel + 1, read, text =>
      match text with
      | [] => (literal.spelled? read.reverse).map fun plain => ([.text plain], [])
      | '\x7b' :: rest =>
          if depth = .outside && rest.head? = some '\x7b' then
            pieces? literal depth fuel ('\x7b' :: read) (rest.drop 1)
          else do
            let plain ← literal.spelled? read.reverse
            let (field, after) ← field? literal depth fuel rest
            let (more, last) ← pieces? literal depth fuel [] after
            return (.text plain :: field :: more, last)
      | '\x7d' :: rest =>
          if depth = .outside then
            if rest.head? = some '\x7d' then
              pieces? literal depth fuel ('\x7d' :: read) (rest.drop 1)
            else none
          else (literal.spelled? read.reverse).map fun plain => ([.text plain], '\x7d' :: rest)
      | '\\' :: c :: rest =>
          if literal.isRaw || c = '\x7b' || c = '\x7d' then
            pieces? literal depth fuel ('\\' :: read) (c :: rest)
          else pieces? literal depth fuel (c :: '\\' :: read) rest
      | c :: rest => pieces? literal depth fuel (c :: read) rest

/-- A field, behind its opening brace, and what follows its closing brace. -/
def field? (literal : Quoted) (depth : Depth) : Nat → List Char → Option (Piece × List Char)
  | 0, _ => none
  | fuel + 1, text =>
      match depth.inner? with
      | none => none
      | some inner => do
        let (source, rest) ← Field.source? text
        let lexemes ← lexemes? (['('] ++ source ++ [')'])
        let (value, cursor) ← (expressions fuel).run { rest := lexemes }
        if cursor.rest.any fun lexeme => !isLayout lexeme.token then none
        let (label, rest) := Field.label source rest
        let (conversion, rest) ← Field.conversion? rest
        match rest with
        | ':' :: rest =>
            match pieces? literal inner fuel [] rest with
            | some (format, '\x7d' :: after) =>
                return (.field label value conversion format, after)
            | _ => none
        | '\x7d' :: after => return (.field label value conversion [], after)
        | _ => none
end

/-- Expressions that make up a whole text: commas make a tuple, and nothing is spread. -/
def wholeText (fuel : Nat) : Reader Expr := do
  let start ← place
  let value ←
    match ← commaList endsList (expression fuel) fuel with
    | ([item], false) => pure item
    | (items, _) => spanning start (.tuple items)
  let _ ← acceptNewlines fuel
  expect .finish
  return value
where
  acceptNewlines : Nat → Reader Bool
    | 0 => return false
    | fuel + 1 => do if ← accept .newline then acceptNewlines fuel else return true

/-- More fuel than reading a text of that length takes. -/
def fuelFor (text : List Char) : Nat :=
  32 * (text.length + 2)

end Reader

/-- The expression a text consists of. -/
def Expr.ofText? (text : List Char) : Option Expr := do
  let lexemes ← expressionLexemes? text
  let (expr, _) ← (Reader.wholeText (Reader.fuelFor text)).run { rest := lexemes }
  return expr

end ScreenFlow.UnitText
