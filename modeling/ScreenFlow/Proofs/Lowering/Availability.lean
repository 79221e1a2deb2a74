import ScreenFlow.Proofs.Lowering.Jobs

/-!
Statements name objects, the ledger keeps one reference for each class.  At the end of a test every
object that its statements call is available under its name, unless its class was first asked for
under another name.
-/

namespace ScreenFlow

namespace Lowering

def collect {α : Type} (read : Ledger → Job → List α) : Ledger → List Job → List α
  | _, [] => []
  | ledger, job :: rest => read ledger job ++ collect read (runJob ledger job) rest

/-- The ledger has an object under the name of a reference, or at least one of its class. -/
def Answers (ledger : Ledger) (wanted : Reference) : Prop :=
  ledger.hasInstance wanted.instanceName = true ∨ ledger.hasClass wanted.className = true

theorem Answers.of_grows {before after : Ledger} {wanted : Reference}
    (hanswers : Answers before wanted) (hgrows : before.Grows after) : Answers after wanted :=
  hanswers.imp hgrows.hasInstance hgrows.hasClass

end Lowering

end ScreenFlow
