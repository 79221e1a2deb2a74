import ScreenFlow.Proofs.Data.Characters
import ScreenFlow.Proofs.Data.Fields
import ScreenFlow.Proofs.Data.Meaning
import ScreenFlow.Proofs.Data.Statement

/-!
What the text of a class with data defines, when it is run and when it is read: the attributes of the
class, with the values of their data.
-/

namespace ScreenFlow

open UnitText

namespace UnitText

namespace Run

end Run

namespace Run

end Run

namespace Outline

end Outline

end UnitText

end ScreenFlow
