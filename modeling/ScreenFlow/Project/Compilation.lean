import ScreenFlow.Lowering.Ledger
import ScreenFlow.Project.Locator

/-!
What one compilation works with: the unit, the platform, the project, and a ledger that no other
compilation sees.
-/

namespace ScreenFlow

/-- What does not change during a compilation. -/
structure Assignment where
  unit : StateUnit
  platform : String
  spec : Platform
  config : Config
  projectRoot : Path

/-- What changes: the session, which outlives the compilation, and the ledger, which does not. -/
structure Desk where
  session : Session
  ledger : Ledger := {}

abbrev Compilation := ExceptT Failure (StateM Desk)

namespace Compilation

/-- Work in the session. -/
def ofWork (work : Work α) : Compilation α := fun desk =>
  match (ExceptT.run work).run desk.session with
  | (result, session) => (result, { desk with session })

/-- Work in the ledger. -/
def ofCompile (task : Compile α) : Compilation α := fun desk =>
  match task.run desk.ledger with
  | (result, ledger) => (result, { desk with ledger })

def ofExcept : Except Failure α → Compilation α
  | .ok a => return a
  | .error failure => throw failure

def degrade (component subject fallback : String) (alternatives : List String) :
    Compilation Unit :=
  ofCompile (Compile.degrade ⟨component, subject, fallback, alternatives⟩)

def files : Compilation FileTree := do
  let desk ← get
  return desk.session.files

/-- Carries out a compilation whose ledger starts with the given degradations. -/
def run (task : Compilation α) (degradations : List Degradation) : Work (α × Ledger) := do
  let desk : Desk := { session := ← get, ledger := { degradations } }
  let (result, desk) := (ExceptT.run task).run desk
  set desk.session
  match result with
  | .ok a => return (a, desk.ledger)
  | .error failure => throw failure

end Compilation

end ScreenFlow
