import ScreenFlow.Proofs.Lowering.Position
import ScreenFlow.Proofs.Lowering.Refusal
import ScreenFlow.Proofs.Screen.Payload

/-!
How a screen is refused.  A payload that does not fit is a validation failure, which is reported.
Three things end the lowering in another way: a signature that is no text, a timeout without end,
and a selector of digits that spell no number.
-/

namespace ScreenFlow

namespace Screen

/-! Functions of a screen in the older form. -/

end Screen

namespace Lowering

/-! Payloads. -/

/-- The names that may carry a selector. -/
def selectorNames (data : UiChecks) : List String :=
  data.visible ++ data.hidden ++ data.checks.text.map (·.1) ++ data.checks.contains.map (·.1) ++
    data.assertions.map (·.function)

theorem selectorsRead_iff (data : UiChecks) :
    selectorsRead data = true ↔ ∀ name ∈ selectorNames data, Selector.IsSpelled name := by
  simp only [selectorsRead, selectorNames, ← Selector.parse_isOk_iff, Bool.and_eq_true,
    List.all_eq_true, List.forall_mem_append, List.forall_mem_map]

/-- No payload that the type of the block asks for is refused. -/
structure Fits (block : Block) : Prop where
  call : kindOf block = "function_call" → ∀ cause, block.callData ≠ .error (.validation cause)
  checks : kindOf block = "ui_assertion" → ∀ cause, block.uiChecks ≠ .error (.validation cause)
  comparisons : kindOf block = "data_assertion" →
    ∀ cause, block.dataAssertions ≠ .error (.validation cause)

end Lowering

end ScreenFlow
