import Copybook.Dataset.Framing
import Copybook.Record.Access

/-!
The records of a dataset as a layout takes them.
-/

namespace Copybook

-- A shorter record is filled up with low values, a longer one is cut.
def Frame.fit (length : Nat) (f : Frame) : Frame :=
  { f with body := Bytes.fit length f.body }

namespace Reading

def fit (length : Nat) : Reading → Reading
  | frame f => .frame (f.fit length)
  | notice n => .notice n

end Reading

namespace Layout

-- Reads a dataset, up to the record after the first `limit`.
def readDataset (layout : Layout) (framing : Text) (limit : Option Int) (data : Bytes) :
    Except FramingFault (List Reading) := do
  let readings ← Dataset.read framing (some layout.length) data
  let fitted := readings.map (Reading.fit layout.length)
  match limit with
  | none => return fitted
  | some limit => return Reading.upTo limit.toNat fitted

-- The values of the records, one after another, the notices being passed on as they come.
def values (layout : Layout) (readings : List Reading) : Noting AccessFault (List Value) :=
  Reading.traverse (fun f => layout.value f.body) readings

end Layout

end Copybook
