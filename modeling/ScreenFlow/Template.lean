import ScreenFlow.Template.Helper

/-!
Templates: text with expressions, branches and loops, rendered over a context of named values.
Using a name that the context lacks is a failure that names it.
-/

namespace ScreenFlow

namespace Template

inductive Expr where
  | literal (value : Value)
  | name (name : String)
  | attribute (of : Expr) (name : String)
  | apply (helper : Helper) (operands : List Expr)
  | concat (left right : Expr)
  | orElse (left right : Expr)
  | callName (name : String)
  deriving Repr, Inhabited

inductive Node where
  | text (text : String)
  | output (expr : Expr)
  | branch (condition : Expr) (thenNodes elseNodes : List Node)
  | loop (name : String) (items : Expr) (body : List Node)
  deriving Repr, Inhabited

abbrev Context := List (String × Value)

/-- What a message calls a value of which something is asked that it has not. -/
def kindOf : Value → String
  | .null => "None"
  | .bool _ => "bool object"
  | .int _ => "int object"
  | .float _ => "float object"
  | .text _ => "str object"
  | .computed .. => "str object"
  | .list _ => "list object"
  | .tuple _ => "tuple object"
  | .map _ => "dict object"
  | .callable _ => "function object"
  | .other typeName _ => typeName ++ " object"

def lookup (context : Context) (name : String) : Operand :=
  match context.lookup name with
  | some value => .value value
  | none => .undefined (.undefinedVariable name)

def attributeOf (value : Value) (name : String) : Operand :=
  match value.entries?.bind (Entries.get? · name) with
  | some found => .value found
  | none => .undefined (.missingAttribute (kindOf value) name)

mutual
def evaluate (context : Context) : Expr → Except Failure Operand
  | .literal value => .ok (.value value)
  | .name name => .ok (lookup context name)
  | .attribute of name => do
      return attributeOf (← (← evaluate context of).need) name
  | .apply helper operands => do
      return .value (← helper.apply (← evaluateAll context operands))
  | .concat left right => do
      let left ← evaluate context left
      let right ← evaluate context right
      return .value (.text ((← left.need).display ++ (← right.need).display))
  | .orElse left right => do
      let left ← (← evaluate context left).need
      if left.truthy then return .value left else evaluate context right
  | .callName name =>
      match lookup context name with
      | .value _ => .error .badType
      | .undefined failure => .error failure

def evaluateAll (context : Context) : List Expr → Except Failure (List Operand)
  | [] => .ok []
  | expr :: rest => do return (← evaluate context expr) :: (← evaluateAll context rest)
end

/-- The value of an expression that is used. -/
def valueOf (context : Context) (expr : Expr) : Except Failure Value := do
  (← evaluate context expr).need

mutual
def renderNode (context : Context) : Node → Except Failure String
  | .text text => .ok text
  | .output expr => do return (← valueOf context expr).display
  | .branch condition thenNodes elseNodes => do
      if (← valueOf context condition).truthy then render context thenNodes
      else render context elseNodes
  | .loop name items body => do
      let parts ← Helper.parts (← valueOf context items)
      return String.join (← parts.mapM fun item => render ((name, item) :: context) body)

def render (context : Context) : List Node → Except Failure String
  | [] => .ok ""
  | node :: rest => do
      let first ← renderNode context node
      return first ++ (← render context rest)
end

end Template

end ScreenFlow
