import Copybook.Proofs.Layout.Fault
import Copybook.Proofs.Session.Access

/-!
How setting a field fails: with a fault of the field, of the key or of the record, unless a failure underneath stops
the value, or a value in the message cannot be written.
-/

namespace Copybook

namespace Layout

variable {layout : Layout} {p : Place} {keys : List Value} {key v : Value}

end Layout

namespace Session

end Session
end Copybook
