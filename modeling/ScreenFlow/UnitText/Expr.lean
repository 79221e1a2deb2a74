import ScreenFlow.UnitText.Token
import ScreenFlow.Value

/-!
Expressions of unit texts.  Every expression knows the stretch of text it was read from; brackets
that only group do not belong to it.
-/

namespace ScreenFlow.UnitText

inductive Unary where
  | plus
  | minus
  | invert
  | not
  deriving DecidableEq, Repr, Inhabited

inductive Binary where
  | add
  | sub
  | mul
  | matMul
  | div
  | floorDiv
  | mod
  | pow
  | shiftLeft
  | shiftRight
  | bitAnd
  | bitOr
  | bitXor
  deriving DecidableEq, Repr, Inhabited

inductive Comparison where
  | eq
  | ne
  | lt
  | le
  | gt
  | ge
  | isSame
  | isNot
  | isIn
  | notIn
  deriving DecidableEq, Repr, Inhabited

/-- How a comprehension collects its items. -/
inductive Collection where
  | list
  | set
  | stream
  deriving DecidableEq, Repr, Inhabited

mutual
inductive Expr where
  | mk (span : Span) (form : Form)

inductive Form where
  /-- A string, a number, a truth value or nothing. -/
  | scalar (value : Value)
  | bytes (text : String)
  | imaginary (value : Binary64)
  | ellipsis
  | template (pieces : List Piece)
  | name (name : String)
  | list (items : List Expr)
  | tuple (items : List Expr)
  | set (items : List Expr)
  | map (entries : List MapEntry)
  /-- A function without a name. -/
  | function (parameters : List Parameter) (body : Expr)
  | call (callee : Expr) (operands : List CallOperand)
  | attribute (owner : Expr) (name : String)
  | item (owner index : Expr)
  | slice (bounds : List (Option Expr))
  | unary (op : Unary) (operand : Expr)
  | binary (op : Binary) (left right : Expr)
  | compare (first : Expr) (rest : List (Comparison × Expr))
  /-- All of the operands when `isAnd` holds, any of them otherwise. -/
  | junction (isAnd : Bool) (operands : List Expr)
  | choice (condition ifTrue ifFalse : Expr)
  | spread (operand : Expr)
  | collect (collection : Collection) (item : Expr) (clauses : List Clause)
  | collectMap (key item : Expr) (clauses : List Clause)
  | bind (name : String) (value : Expr)
  | awaited (operand : Expr)
  | yielded (operand : Option Expr)

/-- A part of a text template.  A field may show its own source in front of its value. -/
inductive Piece where
  | text (text : String)
  | field (label : String) (value : Expr) (conversion : Option Char) (format : List Piece)

inductive MapEntry where
  | pair (key value : Expr)
  | spread (operand : Expr)

/-- A parameter of a function.  Of one that takes several operands, or that is given by name only,
the default value alone is kept. -/
inductive Parameter where
  | plain (name : String) (default : Option Expr)
  | special (default : Option Expr)

inductive CallOperand where
  | positional (value : Expr)
  | named (name : String) (value : Expr)
  | spreadMap (value : Expr)

inductive Clause where
  | mk (target source : Expr) (conditions : List Expr)
end

instance : Inhabited Expr := ⟨.mk default .ellipsis⟩

namespace Parameter

def default? : Parameter → Option Expr
  | plain _ default => default
  | special default => default

def name? : Parameter → Option String
  | plain name _ => some name
  | special _ => none

end Parameter

namespace Expr

def span : Expr → Span
  | mk span _ => span

def form : Expr → Form
  | mk _ form => form

def isSpread (expr : Expr) : Bool :=
  match expr.form with
  | .spread _ => true
  | _ => false

def name? (expr : Expr) : Option String :=
  match expr.form with
  | .name name => some name
  | _ => none

mutual
/-- Whether a value can be assigned to the expression. -/
def isTarget : Expr → Bool
  | mk _ (.name _) => true
  | mk _ (.attribute ..) => true
  | mk _ (.item ..) => true
  | mk _ (.tuple items) => areTargets items
  | mk _ (.list items) => areTargets items
  | mk _ (.spread operand) => isTarget operand
  | _ => false

def areTargets : List Expr → Bool
  | [] => true
  | item :: items => isTarget item && areTargets items
end

/-- Whether the expression is one place, which can be changed and not only replaced. -/
def isPlace (expr : Expr) : Bool :=
  match expr.form with
  | .name _ => true
  | .attribute .. => true
  | .item .. => true
  | _ => false

mutual
def isDeletable : Expr → Bool
  | mk _ (.name _) => true
  | mk _ (.attribute ..) => true
  | mk _ (.item ..) => true
  | mk _ (.tuple items) => areDeletable items
  | mk _ (.list items) => areDeletable items
  | _ => false

def areDeletable : List Expr → Bool
  | [] => true
  | item :: items => isDeletable item && areDeletable items
end

end Expr

end ScreenFlow.UnitText
