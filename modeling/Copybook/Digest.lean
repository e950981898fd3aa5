import Copybook.Digest.Md5
import Copybook.Digest.Sha256

/-!
Digests by their names.
-/

namespace Copybook.Digest

inductive Algorithm
  | sha256
  | md5
  deriving DecidableEq, Repr

-- The case of a name does not matter.
def Algorithm.ofName? (name : Text) : Option Algorithm :=
  match String.ofList (name.map Char.toLower) with
  | "sha256" => some .sha256
  | "md5" => some .md5
  | _ => none

def Algorithm.digest : Algorithm → Bytes → Bytes
  | sha256 => Sha256.digest
  | md5 => Md5.digest

end Copybook.Digest
