import ScreenFlow.UnitText.Expr

/-!
The tree that the text of a unit is read as without being run: literals, containers and names.
Everything else is a computed node, which keeps its source.
-/

namespace ScreenFlow.UnitText

inductive Node where
  | literal (value : Value)
  | array (items : List Node)
  | object (entries : List (String × Node))
  | identifier (name : String)
  | computed (kind : Placeholder) (source : String)
  deriving Inhabited

namespace Node

/-- The literal with the opposite sign; a truth value counts as a number. -/
def negated? : Node → Option Node
  | literal value =>
      match value with
      | .int n => some (literal (.int (-n)))
      | .float x => some (literal (.float x.neg))
      | .bool true => some (literal (.int (-1)))
      | .bool false => some (literal (.int 0))
      | _ => none
  | _ => none

/-- A map key that is a string by itself. -/
def keyOf? (key : Expr) : Option String :=
  match key.form with
  | .scalar (.text name) => some name
  | _ => none

/-- Calls of this name assign fields; their operand is kept. -/
def assignName : String := "assign"

def isAssign (callee : Expr) : Bool :=
  match callee.form with
  | .name name => name = assignName
  | .attribute _ name => name = assignName
  | _ => false

def assignNode (operand : Node) : Node :=
  object [("type", literal (.text "xstate.assign")), ("assignment", operand)]

mutual
/-- The node of an expression of the given text. -/
def ofExpr (text : List Char) : Expr → Node
  | .mk span form => ofForm text span form

def ofForm (text : List Char) (span : Span) : Form → Node
  | .scalar value => literal value
  | .unary .minus operand =>
      ((ofExpr text operand).negated?).getD (computed .expression (span.slice text))
  | .list items => array (ofExprs text items)
  | .tuple items => array (ofExprs text items)
  | .map entries => object (ofEntries text entries)
  | .name name => identifier name
  | .function .. => computed .function (span.slice text)
  | .template _ => computed .template (span.slice text)
  | .call callee operands =>
      match operands with
      | [operand] =>
          match ofOperand text operand with
          | some node =>
              if isAssign callee then assignNode node else computed .call (span.slice text)
          | none => computed .call (span.slice text)
      | _ => computed .call (span.slice text)
  | _ => computed .expression (span.slice text)

def ofExprs (text : List Char) : List Expr → List Node
  | [] => []
  | item :: items => ofExpr text item :: ofExprs text items

/-- The entries with a string for a key; the others are left out. -/
def ofEntries (text : List Char) : List MapEntry → List (String × Node)
  | [] => []
  | .pair key value :: rest =>
      match keyOf? key with
      | some name => (name, ofExpr text value) :: ofEntries text rest
      | none => ofEntries text rest
  | .spread _ :: rest => ofEntries text rest

def ofOperand (text : List Char) : CallOperand → Option Node
  | .positional value => some (ofExpr text value)
  | _ => none
end

end Node

end ScreenFlow.UnitText
