import ScreenFlow.Proofs.Data.Digits
import Mathlib.Data.List.Basic

/-!
The numbers of data, without their signs, as number literals.
-/

namespace ScreenFlow.UnitText.Numeral

end ScreenFlow.UnitText.Numeral
