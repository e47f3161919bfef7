import CoinKeys.Digest.Sha256

/-!
# RIPEMD-160

Two lines of eighty steps read the same sixteen words of a block in different orders, with
different rotations and with the five bit functions in opposite order; their results are added
crosswise into a chaining state of five words. `hash160`, the RIPEMD-160 hash of a SHA-256 hash,
is what addresses are made of.
-/

namespace CoinKeys.Ripemd160

open Word

/-- The five words of the chaining state, and of each line. -/
structure State where
  /-- First word. -/
  a : UInt32
  /-- Second word. -/
  b : UInt32
  /-- Third word. -/
  c : UInt32
  /-- Fourth word. -/
  d : UInt32
  /-- Fifth word. -/
  e : UInt32

/-- The state before the first block. -/
def initial : State :=
  ⟨0x67452301, 0xefcdab89, 0x98badcfe, 0x10325476, 0xc3d2e1f0⟩

/-- The bit function of each group of sixteen steps of the left line. -/
def mixer : Nat → UInt32 → UInt32 → UInt32 → UInt32
  | 0, x, y, z => x ^^^ y ^^^ z
  | 1, x, y, z => (x &&& y) ||| (~~~ x &&& z)
  | 2, x, y, z => (x ||| ~~~ y) ^^^ z
  | 3, x, y, z => (x &&& z) ||| (y &&& ~~~ z)
  | _, x, y, z => x ^^^ (y ||| ~~~ z)

/-- One group of sixteen steps of a line: which bit function it uses, the constant it adds, the
order in which it reads the words, and the rotation of each step. -/
structure Group where
  /-- The index of the bit function. -/
  mixer : Nat
  /-- The constant added in every step. -/
  constant : UInt32
  /-- The words read, in order. -/
  words : List Nat
  /-- The rotation of each step. -/
  rotations : List UInt32

/-- The five groups of the left line. -/
def leftLine : List Group := [
  ⟨0, 0x00000000, [0, 1, 2, 3, 4, 5, 6, 7, 8, 9, 10, 11, 12, 13, 14, 15],
    [11, 14, 15, 12, 5, 8, 7, 9, 11, 13, 14, 15, 6, 7, 9, 8]⟩,
  ⟨1, 0x5a827999, [7, 4, 13, 1, 10, 6, 15, 3, 12, 0, 9, 5, 2, 14, 11, 8],
    [7, 6, 8, 13, 11, 9, 7, 15, 7, 12, 15, 9, 11, 7, 13, 12]⟩,
  ⟨2, 0x6ed9eba1, [3, 10, 14, 4, 9, 15, 8, 1, 2, 7, 0, 6, 13, 11, 5, 12],
    [11, 13, 6, 7, 14, 9, 13, 15, 14, 8, 13, 6, 5, 12, 7, 5]⟩,
  ⟨3, 0x8f1bbcdc, [1, 9, 11, 10, 0, 8, 12, 4, 13, 3, 7, 15, 14, 5, 6, 2],
    [11, 12, 14, 15, 14, 15, 9, 8, 9, 14, 5, 6, 8, 6, 5, 12]⟩,
  ⟨4, 0xa953fd4e, [4, 0, 5, 9, 7, 12, 2, 10, 14, 1, 3, 8, 11, 6, 15, 13],
    [9, 15, 5, 11, 6, 8, 13, 12, 5, 12, 13, 14, 11, 8, 5, 6]⟩]

/-- The five groups of the right line. -/
def rightLine : List Group := [
  ⟨4, 0x50a28be6, [5, 14, 7, 0, 9, 2, 11, 4, 13, 6, 15, 8, 1, 10, 3, 12],
    [8, 9, 9, 11, 13, 15, 15, 5, 7, 7, 8, 11, 14, 14, 12, 6]⟩,
  ⟨3, 0x5c4dd124, [6, 11, 3, 7, 0, 13, 5, 10, 14, 15, 8, 12, 4, 9, 1, 2],
    [9, 13, 15, 7, 12, 8, 9, 11, 7, 7, 12, 7, 6, 15, 13, 11]⟩,
  ⟨2, 0x6d703ef3, [15, 5, 1, 3, 7, 14, 6, 9, 11, 8, 12, 2, 10, 0, 4, 13],
    [9, 7, 15, 11, 8, 6, 6, 14, 12, 13, 5, 14, 13, 13, 7, 5]⟩,
  ⟨1, 0x7a6d76e9, [8, 6, 4, 1, 3, 11, 15, 0, 5, 12, 2, 13, 9, 7, 10, 14],
    [15, 5, 8, 11, 14, 14, 6, 14, 6, 9, 12, 9, 12, 5, 15, 8]⟩,
  ⟨0, 0x00000000, [12, 15, 10, 4, 1, 5, 8, 7, 6, 2, 13, 14, 0, 3, 9, 11],
    [8, 5, 12, 9, 12, 5, 14, 6, 8, 13, 6, 5, 15, 13, 11, 11]⟩]

/-- One step of a line with the word it reads and its rotation. -/
def step (group : Group) (s : State) (word rotation : UInt32) : State :=
  let t := rotateLeft (s.a + Ripemd160.mixer group.mixer s.b s.c s.d + word + group.constant)
    rotation + s.e
  ⟨s.e, t, s.b, rotateLeft s.c 10, s.d⟩

/-- Run a line over one block. -/
def runLine (groups : List Group) (block : Array UInt32) (s : State) : State :=
  groups.foldl
    (fun s group => (group.words.zip group.rotations).foldl
      (fun s p => step group s (block.getD p.1 0) p.2) s) s

/-- Mix one block into the state. -/
def compress (s : State) (block : List UInt32) : State :=
  let words := block.toArray
  let l := runLine leftLine words s
  let r := runLine rightLine words s
  ⟨s.b + l.c + r.d, s.c + l.d + r.e, s.d + l.e + r.a, s.e + l.a + r.b, s.a + l.b + r.c⟩

/-- The message, a closing one bit, zeros up to eight bytes before a block's end, and the length of
the message in bits, least significant byte first. -/
def pad (message : Bytes) : Bytes :=
  message ++ 0x80 :: List.replicate ((119 - message.length % 64) % 64) 0 ++
    (FixedBytes.ofNat 8 (8 * message.length)).toList.reverse

/-- The bytes of a state. -/
def State.toBytes (s : State) : FixedBytes 20 :=
  ⟨littleEndian s.a ++ littleEndian s.b ++ littleEndian s.c ++ littleEndian s.d ++
    littleEndian s.e, rfl⟩

/-- The RIPEMD-160 hash of a message. -/
def digest (message : Bytes) : FixedBytes 20 :=
  ((chunks 16 (listOfLittleEndian (pad message))).foldl compress initial).toBytes

end CoinKeys.Ripemd160

namespace CoinKeys

/-- The RIPEMD-160 hash of the SHA-256 hash. -/
def hash160 (message : Bytes) : FixedBytes 20 :=
  Ripemd160.digest (Sha256.digest message).toList

end CoinKeys
