import ScreenFlow.Proofs.UnitText.Expression
import ScreenFlow.UnitText.Statement

/-!
From expressions to statements: a line that gives a name a value, and a class of such lines.
-/

namespace ScreenFlow.UnitText

namespace Reader

variable {fuel : Nat} {name : String} {tokens rest : List Token}

variable {Value : Expr → Prop} {first : Token}

end Reader

end ScreenFlow.UnitText
