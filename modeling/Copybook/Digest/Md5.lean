import Copybook.Digest.Padding

/-!
The MD5 digest, whose words have their low byte first.
-/

namespace Copybook.Digest.Md5

-- The first 32 bits of the fractional parts of the sines of 1, 2, …, 64 without their signs.
def constants : List UInt32 := [
    0xd76aa478, 0xe8c7b756, 0x242070db, 0xc1bdceee, 0xf57c0faf, 0x4787c62a, 0xa8304613, 0xfd469501,
    0x698098d8, 0x8b44f7af, 0xffff5bb1, 0x895cd7be, 0x6b901122, 0xfd987193, 0xa679438e, 0x49b40821,
    0xf61e2562, 0xc040b340, 0x265e5a51, 0xe9b6c7aa, 0xd62f105d, 0x02441453, 0xd8a1e681, 0xe7d3fbc8,
    0x21e1cde6, 0xc33707d6, 0xf4d50d87, 0x455a14ed, 0xa9e3e905, 0xfcefa3f8, 0x676f02d9, 0x8d2a4c8a,
    0xfffa3942, 0x8771f681, 0x6d9d6122, 0xfde5380c, 0xa4beea44, 0x4bdecfa9, 0xf6bb4b60, 0xbebfbc70,
    0x289b7ec6, 0xeaa127fa, 0xd4ef3085, 0x04881d05, 0xd9d4d039, 0xe6db99e5, 0x1fa27cf8, 0xc4ac5665,
    0xf4292244, 0x432aff97, 0xab9423a7, 0xfc93a039, 0x655b59c3, 0x8f0ccc92, 0xffeff47d, 0x85845dd1,
    0x6fa87e4f, 0xfe2ce6e0, 0xa3014314, 0x4e0811a1, 0xf7537e82, 0xbd3af235, 0x2ad7d2bb, 0xeb86d391]

structure State where
  a : UInt32
  b : UInt32
  c : UInt32
  d : UInt32

namespace State

def start : State :=
  ⟨0x67452301, 0xefcdab89, 0x98badcfe, 0x10325476⟩

def add (s t : State) : State :=
  ⟨s.a + t.a, s.b + t.b, s.c + t.c, s.d + t.d⟩

-- Round `i` with its constant.
def round (block : List UInt32) (s : State) (i : Nat) (k : UInt32) : State :=
  let (mixed, word, turns) : UInt32 × Nat × List UInt32 :=
    match i / 16 with
    | 0 => ((s.b &&& s.c) ||| (~~~s.b &&& s.d), i, [7, 12, 17, 22])
    | 1 => ((s.d &&& s.b) ||| (~~~s.d &&& s.c), 5 * i + 1, [5, 9, 14, 20])
    | 2 => (s.b ^^^ s.c ^^^ s.d, 3 * i + 5, [4, 11, 16, 23])
    | _ => (s.c ^^^ (s.b ||| ~~~s.d), 7 * i, [6, 10, 15, 21])
  let sum := s.a + mixed + k + block.getD (word % 16) 0
  ⟨s.d, s.b + rotateLeft sum (turns.getD (i % 4) 0), s.b, s.c⟩

def bytes (s : State) : Bytes :=
  [s.a, s.b, s.c, s.d].flatMap fun w => (Bytes.ofNat 4 w.toNat).reverse

end State

def step (s : State) (block : Bytes) : State :=
  let ws := words List.reverse block
  s.add (constants.zipIdx.foldl (fun t (k, i) => t.round ws i k) s)

def digest (b : Bytes) : Bytes :=
  ((chunks 64 (pad List.reverse b)).foldl step State.start).bytes

end Copybook.Digest.Md5
