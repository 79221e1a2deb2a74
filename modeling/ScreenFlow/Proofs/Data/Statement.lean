import ScreenFlow.Proofs.Data.ClassText
import ScreenFlow.Proofs.Data.Expression
import ScreenFlow.Proofs.UnitText.Statement
import Mathlib.Algebra.Order.BigOperators.Group.List

/-!
The text of a class is read as one class statement, with an assignment for each attribute.
-/

namespace ScreenFlow

open UnitText

namespace DataField

end DataField

namespace UnitText.Reader

open Data

end UnitText.Reader

namespace UnitText

end UnitText

end ScreenFlow
