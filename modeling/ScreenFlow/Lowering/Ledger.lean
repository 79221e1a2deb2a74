import ScreenFlow.Failure
import ScreenFlow.Graph.Action

/-!
What accumulates while a test is compiled: degradations, and the objects the test has to make
available.  A class is registered once, under its first reference.
-/

namespace ScreenFlow

structure Ledger where
  degradations : List Degradation := []
  references : List Reference := []
  deriving Repr

namespace Ledger

def degrade (ledger : Ledger) (record : Degradation) : Ledger :=
  { ledger with degradations := ledger.degradations ++ [record] }

def hasClass (ledger : Ledger) (className : String) : Bool :=
  ledger.references.any fun known => known.className == className

/-- The ledger with the reference, unless its class is known already. -/
def add (ledger : Ledger) (reference : Reference) : Ledger :=
  if ledger.hasClass reference.className then ledger
  else { ledger with references := ledger.references ++ [reference] }

def hasInstance (ledger : Ledger) (name : String) : Bool :=
  ledger.references.any fun known => known.instanceName == name

theorem hasClass_add (ledger : Ledger) (reference : Reference) :
    (ledger.add reference).hasClass reference.className = true := by
  unfold add
  split
  · assumption
  · simp [hasClass]

end Ledger

/-- A compilation may fail; what it has recorded by then stays recorded. -/
abbrev Compile (α : Type) := ExceptT Failure (StateM Ledger) α

namespace Compile

def run (task : Compile α) (ledger : Ledger) : Except Failure α × Ledger :=
  StateT.run (ExceptT.run task) ledger

def degrade (record : Degradation) : Compile Unit :=
  modify (·.degrade record)

def register (reference : Reference) : Compile Unit :=
  modify (·.add reference)

/-- Registers the reference, and says whether its class is new. -/
def registerNew (reference : Reference) : Compile Bool := do
  let known := (← get).hasClass reference.className
  register reference
  return !known

end Compile

end ScreenFlow
