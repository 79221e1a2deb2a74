import ScreenFlow.Proofs.Data.Expression
import ScreenFlow.UnitText.Rebuild
import ScreenFlow.UnitText.Run

/-!
An expression that spells data has its value, both when it is evaluated and when its node is rebuilt,
whatever names there are.
-/

namespace ScreenFlow

namespace Decimal

end Decimal

open UnitText

namespace UnitText.Run

open Data

/-- An expression that spells data is evaluated to its value, with enough fuel. -/
def EvaluatesWell (data : Data) : Prop :=
  ∀ (fuel : Nat) (expr : Expr), Reader.room data.tokens ≤ fuel → data.SpelledBy expr →
    evaluate fuel expr = pure (.value data.value)

theorem EvaluatesWell.value {data : Data} (hdata : EvaluatesWell data) {fuel : Nat} {expr : Expr}
    (hfuel : Reader.room data.tokens ≤ fuel) (hspelled : data.SpelledBy expr) :
    evaluateValue (fuel + 1) expr = pure data.value := by
  rw [evaluateValue, hdata fuel expr hfuel hspelled, pure_bind]
  rfl

end UnitText.Run

namespace UnitText.Node

open Data

end UnitText.Node

end ScreenFlow
