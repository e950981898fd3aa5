import Copybook.Bytes

/-!
How a message is made into whole blocks of 64 bytes before it is digested.
-/

namespace Copybook.Digest

-- The message, the byte 80, low values as needed, and the eight bytes of its length in bits.
def pad (lengthBytes : Bytes → Bytes) (b : Bytes) : Bytes :=
  let zeros := (119 - b.length % 64) % 64
  b ++ 0x80 :: List.replicate zeros 0 ++ lengthBytes (Bytes.ofNat 8 (8 * b.length))

-- Pieces of `n` bytes; the last one may be shorter.
def chunks (n : Nat) (b : Bytes) : List Bytes :=
  if h : b.isEmpty ∨ n = 0 then []
  else
    have : (b.drop n).length < b.length := by
      have : b ≠ [] := by simpa using fun e => h (.inl e)
      have := List.length_pos_iff.2 this
      simp; omega
    b.take n :: chunks n (b.drop n)
termination_by b.length

-- The 32-bit words of a block, the bytes of each being put in order by `order`.
def words (order : Bytes → Bytes) (block : Bytes) : List UInt32 :=
  (chunks 4 block).map fun b => UInt32.ofNat (Bytes.toNat (order b))

def rotateLeft (w : UInt32) (n : UInt32) : UInt32 :=
  (w <<< n) ||| (w >>> (32 - n))

def rotateRight (w : UInt32) (n : UInt32) : UInt32 :=
  (w >>> n) ||| (w <<< (32 - n))

end Copybook.Digest
