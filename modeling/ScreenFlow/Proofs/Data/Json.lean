import ScreenFlow.Proofs.Data.Digits
import Mathlib.Tactic.SplitIfs

/-!
A JSON text of data is read as the value of the data, or refused when a whole number in it is too
long.
-/

namespace ScreenFlow

namespace Json

/-! Strings. -/

theorem skipSpace_cons {c : Char} (hc : isSpace c = false) (rest : List Char) :
    skipSpace (c :: rest) = c :: rest := by
  simp [skipSpace, hc]

/-- A text of the data is read as its value, unless a whole number in it is too long. -/
def ReadsBack (data : Data) : Prop :=
  ∀ (fuel : Nat) (rest : List Char), 2 * (data.spelled .json).length ≤ fuel → Closes rest →
    value? fuel (data.spelled .json ++ rest) =
      if data.isShort then some (data.value, rest) else none

end Json

end ScreenFlow
