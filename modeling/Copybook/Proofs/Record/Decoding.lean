import Copybook.Proofs.Field.Canonical
import Copybook.Proofs.Field.Fault
import Copybook.Proofs.Session.Plain

/-!
How the value of a record fails: as the bytes of one of its fields hold no value, or because the arithmetic underneath
cannot set the point in a number that has a million digits before it.
-/

namespace Copybook

namespace Zoned

end Zoned

namespace Packed

end Packed

namespace FieldType

open Decimal NumberShape

variable {codec : Codec}

end FieldType

namespace Spot

variable {codec : Codec}

end Spot

namespace Place

variable {codec : Codec} {buffer : Bytes} {Q : AccessFault → Prop}

end Place

namespace Layout

end Layout
end Copybook
