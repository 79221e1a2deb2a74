import ScreenFlow.UnitText.BuiltIn
import ScreenFlow.UnitText.Listing

/-!
The value of an expression during a run.  A call is carried out when its function needs no
definition, or when it is defined by values that are named one after the other.
-/

namespace ScreenFlow.UnitText.Run

/-- Names that are assigned together get as many values as there are names. -/
def pairUp (targets : List Expr) (items : List Value) : Run (List (String × Value)) := do
  let names := targets.filterMap Expr.name?
  if names.length = targets.length && names.length = items.length then return names.zip items
  else failure

def bindTarget (bind : String → Datum → Run Unit) (target : Expr) (datum : Datum) : Run Unit := do
  match target.form with
  | .name name => bind name datum
  | .tuple targets => do
      for (name, item) in ← pairUp targets (← iterate datum) do bind name (.value item)
  | .list targets => do
      for (name, item) in ← pairUp targets (← iterate datum) do bind name (.value item)
  | _ => failure

/-- A function of the given source.  One that cannot be called is known by its source alone. -/
def functionOf (source : String) (parameters : List Parameter) (defaults : Names)
    (recipe : Option Recipe) : Datum :=
  match parameters.mapM Parameter.name?, recipe with
  | some names, some recipe => .function source names defaults recipe
  | _, _ => .value (.callable source)

/-- The parameters with what a call gives for them: operands in order, then operands by name, and
default values for all others. -/
def boundNames (parameters : List String) (defaults : Names) (given : List Datum) (named : Names) :
    Run Names := do
  let rest := parameters.drop given.length
  if parameters.length < given.length then failure
  if named.any fun operand => !rest.contains operand.1 then failure
  let others ← rest.mapM fun name => do
    return (name, ← fromOption ((named.lookup name).or (defaults.lookup name)))
  return parameters.zip given ++ others

mutual
def evaluate : Nat → Expr → Run Datum
  | 0, _ => failure
  | fuel + 1, expr =>
      match expr.form with
      | .scalar value => return .value value
      | .bytes text => return .value (.other "bytes" ("b" ++ Value.writtenText text))
      | .imaginary _ => return .value (.other "complex" "")
      | .ellipsis => return .value (.other "ellipsis" "Ellipsis")
      | .template found => return .value (.text (← evaluatePieces fuel found))
      | .name name => lookup name
      | .list items => return .value (.list (← evaluateItems fuel items))
      | .tuple items => return .value (.tuple (← evaluateItems fuel items))
      | .set items => return .value (← setOf (← evaluateItems fuel items))
      | .map entries => return .value (.map (← evaluateEntries fuel [] entries))
      | .function parameters body => do
          let defaults ← evaluateDefaults fuel parameters
          let machine ← get
          return functionOf (Listing.unnamed machine.text machine.lexemes expr.span) parameters
            defaults (some ⟨[], body⟩)
      | .call callee operands => evaluateCall fuel callee operands
      | .attribute owner name => do
          match ← evaluate fuel owner with
          | .unit place =>
              if name = "__name__" then return .value (.text (← unitAt place).name)
              else fromOption (member? (← get).units place name)
          | _ => failure
      | .item owner index => evaluateAccess fuel owner index
      | .slice _ => failure
      | .unary op operand => do
          return .value (← fromOption (Operation.unary op (← evaluateValue fuel operand)))
      | .binary op left right => do
          let first ← evaluateValue fuel left
          let second ← evaluateValue fuel right
          return .value (← fromOption (Operation.binary op first second))
      | .compare first rest => do
          return .value (.bool (← evaluateComparison fuel (← evaluateValue fuel first) rest))
      | .junction isAnd operands => evaluateJunction fuel isAnd operands
      | .choice condition ifTrue ifFalse => do
          if (← evaluateValue fuel condition).truthy then evaluate fuel ifTrue
          else evaluate fuel ifFalse
      | .spread _ => failure
      | .collect collection item clauses => do
          let items ← collect fuel clauses (do return [← evaluateValue fuel item])
          match collection with
          | .list => return .value (.list items)
          | .set => return .value (← setOf items)
          | .stream => return .stream "generator" "" items
      | .collectMap key item clauses => do
          let pairs ← collect fuel clauses do
            let found ← evaluateValue fuel key
            return [Value.tuple [found, ← evaluateValue fuel item]]
          return .value (.map (← entriesOf (.value (.list pairs))))
      | .bind name operand => do
          let datum ← evaluate fuel operand
          assignName name datum
          return datum
      | .awaited _ => failure
      | .yielded _ => failure

def evaluateValue : Nat → Expr → Run Value
  | 0, _ => failure
  | fuel + 1, expr => do value (← evaluate fuel expr)

def evaluateItems : Nat → List Expr → Run (List Value)
  | 0, _ => failure
  | _ + 1, [] => return []
  | fuel + 1, item :: rest => do
      let first ←
        match item.form with
        | .spread operand => do iterate (← evaluate fuel operand)
        | _ => do pure [← evaluateValue fuel item]
      return first ++ (← evaluateItems fuel rest)

def evaluateEntries : Nat → Entries → List MapEntry → Run Entries
  | 0, _, _ => failure
  | _ + 1, entries, [] => return entries
  | fuel + 1, entries, .pair key item :: rest => do
      let found ← keyOf (← evaluateValue fuel key)
      let item ← evaluateValue fuel item
      evaluateEntries fuel (putKey entries found item) rest
  | fuel + 1, entries, .spread operand :: rest => do
      match ← evaluateValue fuel operand with
      | .map others =>
          evaluateEntries fuel
            (others.foldl (fun entries entry => putKey entries entry.1 entry.2) entries) rest
      | _ => failure

def evaluatePieces : Nat → List Piece → Run String
  | 0, _ => failure
  | _ + 1, [] => return ""
  | fuel + 1, .text plain :: rest => do return plain ++ (← evaluatePieces fuel rest)
  | fuel + 1, .field label expr conversion format :: rest => do
      if !format.isEmpty then failure
      let shown ← fieldText label conversion (← evaluateValue fuel expr)
      return shown ++ (← evaluatePieces fuel rest)

def evaluateComparison : Nat → Value → List (Comparison × Expr) → Run Bool
  | 0, _, _ => failure
  | _ + 1, _, [] => return true
  | fuel + 1, first, (op, expr) :: rest => do
      let second ← evaluateValue fuel expr
      if ← fromOption (Operation.compare op first second) then evaluateComparison fuel second rest
      else return false

def evaluateJunction : Nat → Bool → List Expr → Run Datum
  | 0, _, _ => failure
  | _ + 1, _, [] => failure
  | fuel + 1, _, [last] => evaluate fuel last
  | fuel + 1, isAnd, expr :: rest => do
      let datum ← evaluate fuel expr
      if (← value datum).truthy = isAnd then evaluateJunction fuel isAnd rest else return datum

def evaluateAccess : Nat → Expr → Expr → Run Datum
  | 0, _, _ => failure
  | fuel + 1, owner, index => do
      let owner ← evaluateValue fuel owner
      match index.form with
      | .slice [lower, upper] => do
          let lower ← evaluateBound fuel lower
          let upper ← evaluateBound fuel upper
          match owner with
          | .list items => return .value (.list (Operation.stretch items lower upper))
          | .tuple items => return .value (.tuple (Operation.stretch items lower upper))
          | .text text =>
              return .value (.text (String.ofList (Operation.stretch text.toList lower upper)))
          | _ => failure
      | _ => do
          let index ← evaluateValue fuel index
          return .value (← fromOption (Operation.item? owner index))

def evaluateBound : Nat → Option Expr → Run (Option Int)
  | 0, _ => failure
  | _ + 1, none => return none
  | fuel + 1, some expr => do
      match ← evaluateValue fuel expr with
      | .null => return none
      | other => return some (← fromOption other.int?)

def evaluateOperands : Nat → List CallOperand → Run (List Datum × Names)
  | 0, _ => failure
  | _ + 1, [] => return ([], [])
  | fuel + 1, operand :: rest => do
      let (given, named) : List Datum × Names ←
        match operand with
        | .positional expr =>
            match expr.form with
            | .spread inner => do
                pure ((← iterate (← evaluate fuel inner)).map Datum.value, [])
            | _ => do pure ([← evaluate fuel expr], [])
        | .named name expr => do pure ([], [(name, ← evaluate fuel expr)])
        | .spreadMap expr => do
            let entries ← entriesOf (← evaluate fuel expr)
            pure ([], entries.map fun entry => (entry.1.text, .value entry.2))
      let (moreGiven, moreNamed) ← evaluateOperands fuel rest
      return (given ++ moreGiven, named ++ moreNamed)

/-- The values of the parameters that need not be given. -/
def evaluateDefaults : Nat → List Parameter → Run Names
  | 0, _ => failure
  | _ + 1, [] => return []
  | fuel + 1, parameter :: rest => do
      let found : Names ←
        match parameter.name?, parameter.default? with
        | some name, some expr => do pure [(name, ← evaluate fuel expr)]
        | none, some expr => do
            let _ ← evaluate fuel expr
            pure []
        | _, none => pure []
      return found ++ (← evaluateDefaults fuel rest)

def evaluateCall : Nat → Expr → List CallOperand → Run Datum
  | 0, _, _ => failure
  | fuel + 1, callee, operands => do
      match callee.form with
      | .attribute owner name => do
          match ← evaluate fuel owner with
          | .unit place => do
              let member ← fromOption (member? (← get).units place name)
              let (given, named) ← evaluateOperands fuel operands
              call fuel member given named
          | owner => do
              let owner ← value owner
              let (given, named) ← evaluateOperands fuel operands
              if !named.isEmpty then failure
              match owner, name, given with
              | .text text, "join", [datum] =>
                  textMethod text name [.list (← iterate datum)]
              | _, _, _ => callMethod owner name (← given.mapM value)
      | _ => do
          let function ← evaluate fuel callee
          let (given, named) ← evaluateOperands fuel operands
          call fuel function given named

/-- A call of a function.  It sees its parameters and the names of the text, but not the names of
the class around it. -/
def call : Nat → Datum → List Datum → Names → Run Datum
  | 0, _, _, _ => failure
  | fuel + 1, function, given, named =>
      match function with
      | .function _ parameters defaults recipe => do
          let bound ← boundNames parameters defaults given named
          let outer := (← get).inner
          modify fun machine => { machine with inner := some bound }
          follow fuel recipe.steps
          let datum ← evaluate fuel recipe.result
          modify fun machine => { machine with inner := outer }
          return datum
      | .value (.callable name) =>
          if isBuiltIn name then callBuiltIn name given named else failure
      | _ => failure

/-- Names values one after the other. -/
def follow : Nat → List (Expr × Expr) → Run Unit
  | 0, _ => failure
  | _ + 1, [] => return ()
  | fuel + 1, (target, expr) :: rest => do
      bindTarget bindInner target (← evaluate fuel expr)
      follow fuel rest

/-- What a comprehension collects: the results of `body` for every choice its clauses make. -/
def collect : Nat → List Clause → Run (List Value) → Run (List Value)
  | 0, _, _ => failure
  | fuel + 1, clauses, body => do
      match clauses with
      | [] => body
      | .mk target source conditions :: rest => do
          let items ← iterate (← evaluate fuel source)
          let outer := (← get).inner
          modify fun machine => { machine with inner := some (outer.getD []) }
          let mut found := []
          for item in items do
            bindTarget bindInner target (.value item)
            if ← evaluateConditions fuel conditions then
              found := found ++ (← collect fuel rest body)
          modify fun machine => { machine with inner := outer }
          return found

def evaluateConditions : Nat → List Expr → Run Bool
  | 0, _ => failure
  | _ + 1, [] => return true
  | fuel + 1, condition :: rest => do
      if (← evaluateValue fuel condition).truthy then evaluateConditions fuel rest
      else return false
end

end ScreenFlow.UnitText.Run
