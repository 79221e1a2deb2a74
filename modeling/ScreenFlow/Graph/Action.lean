import ScreenFlow.Schema

/-!
What a user does to follow an edge: ordered steps, each a call of a method of an object, and the
objects that have to be made available for them.
-/

namespace ScreenFlow

/-- An object that a generated test has to make available. -/
structure Reference where
  className : String
  path : Option String := none
  varName : Option String := none
  deriving DecidableEq, Repr

namespace Reference

/-- The variable that holds the object; named after the class unless the reference says
otherwise. -/
def instanceName (reference : Reference) : String :=
  match reference.varName.filter (· != "") with
  | some name => name
  | none => uncapitalized reference.className

def read : Value → Reading Reference :=
  Schema.record fun entries =>
    Reference.mk
      <$> Schema.required entries ⟨"className", "class_name"⟩ Schema.string
      <*> Schema.optional entries (.same "path") none Schema.optionalString
      <*> Schema.optional entries ⟨"varName", "var_name"⟩ none Schema.optionalString

end Reference

structure Step where
  object : String := "this"
  method : String
  args : List Value := []
  storeAs : Option String := none
  conditions : Value := .null
  isAsync : Bool := true
  deriving Repr

namespace Step

def read : Value → Reading Step :=
  Schema.record fun entries =>
    Step.mk
      <$> Schema.optional entries (.same "instance") "this" Schema.string
      <*> Schema.required entries (.same "method") Schema.string
      <*> Schema.optional entries (.same "args") [] (Schema.listOrEmpty Schema.any)
      <*> Schema.optional entries ⟨"storeAs", "store_as"⟩ none Schema.stringOrNone
      <*> Schema.optional entries (.same "conditions") .null Schema.any
      <*> Schema.optional entries ⟨"await", "is_async"⟩ true Schema.bool
      <* Schema.onlyNames entries

/-- The name a step stores its result under; an empty name counts as none. -/
def stored? (step : Step) : Option String :=
  step.storeAs.filter (· != "")

end Step

structure Action where
  description : Option String := none
  imports : List Reference := []
  steps : List Step := []
  deriving Repr

namespace Action

def read : Value → Reading Action :=
  Schema.record fun entries =>
    Action.mk
      <$> Schema.optional entries (.same "description") none Schema.stringOrNone
      <*> Schema.optional entries (.same "imports") [] (Schema.recordsOnly Reference.read)
      <*> Schema.optional entries (.same "steps") [] (Schema.recordsOnly Step.read)
      <* Schema.onlyNames entries

/-- The names under which the steps store results, in order and with repetitions. -/
def storedNames (action : Action) : List String :=
  action.steps.filterMap Step.stored?

end Action

end ScreenFlow
