import CoinKeys.Digest.Word

/-!
# SHA-256

The message is padded to whole blocks of sixteen words, each block is expanded to a schedule of
sixty-four words, and sixty-four rounds mix the schedule into a chaining state of eight words.
`digest` is the hash and `double` the hash of the hash, which checksums are taken from.
-/

namespace CoinKeys.Sha256

open Word

/-- The eight words of the chaining state. -/
structure State where
  /-- First word. -/
  a : UInt32
  /-- Second word. -/
  b : UInt32
  /-- Third word. -/
  c : UInt32
  /-- Fourth word. -/
  d : UInt32
  /-- Fifth word. -/
  e : UInt32
  /-- Sixth word. -/
  f : UInt32
  /-- Seventh word. -/
  g : UInt32
  /-- Eighth word. -/
  h : UInt32

/-- The state before the first block: fractional parts of the square roots of the first eight
primes. -/
def initial : State :=
  ⟨0x6a09e667, 0xbb67ae85, 0x3c6ef372, 0xa54ff53a, 0x510e527f, 0x9b05688c, 0x1f83d9ab, 0x5be0cd19⟩

/-- One constant a round: fractional parts of the cube roots of the first sixty-four primes. -/
def roundConstants : List UInt32 := [
  0x428a2f98, 0x71374491, 0xb5c0fbcf, 0xe9b5dba5, 0x3956c25b, 0x59f111f1, 0x923f82a4, 0xab1c5ed5,
  0xd807aa98, 0x12835b01, 0x243185be, 0x550c7dc3, 0x72be5d74, 0x80deb1fe, 0x9bdc06a7, 0xc19bf174,
  0xe49b69c1, 0xefbe4786, 0x0fc19dc6, 0x240ca1cc, 0x2de92c6f, 0x4a7484aa, 0x5cb0a9dc, 0x76f988da,
  0x983e5152, 0xa831c66d, 0xb00327c8, 0xbf597fc7, 0xc6e00bf3, 0xd5a79147, 0x06ca6351, 0x14292967,
  0x27b70a85, 0x2e1b2138, 0x4d2c6dfc, 0x53380d13, 0x650a7354, 0x766a0abb, 0x81c2c92e, 0x92722c85,
  0xa2bfe8a1, 0xa81a664b, 0xc24b8b70, 0xc76c51a3, 0xd192e819, 0xd6990624, 0xf40e3585, 0x106aa070,
  0x19a4c116, 0x1e376c08, 0x2748774c, 0x34b0bcb5, 0x391c0cb3, 0x4ed8aa4a, 0x5b9cca4f, 0x682e6ff3,
  0x748f82ee, 0x78a5636f, 0x84c87814, 0x8cc70208, 0x90befffa, 0xa4506ceb, 0xbef9a3f7, 0xc67178f2]

/-- Expand sixteen words to sixty-four: each later word depends on the words 2, 7, 15 and 16
places before it. -/
def schedule (block : List UInt32) : List UInt32 :=
  let words := (List.range 48).foldl
    (fun words i =>
      let near := words.getD (i + 14) 0
      let far := words.getD (i + 1) 0
      let mixNear := rotateRight near 17 ^^^ rotateRight near 19 ^^^ (near >>> 10)
      let mixFar := rotateRight far 7 ^^^ rotateRight far 18 ^^^ (far >>> 3)
      words.push (mixNear + words.getD (i + 9) 0 + mixFar + words.getD i 0))
    block.toArray
  words.toList

/-- One round with a schedule word and its round constant. -/
def round (s : State) (word constant : UInt32) : State :=
  let choice := (s.e &&& s.f) ^^^ (~~~ s.e &&& s.g)
  let majority := (s.a &&& s.b) ^^^ (s.a &&& s.c) ^^^ (s.b &&& s.c)
  let high := rotateRight s.e 6 ^^^ rotateRight s.e 11 ^^^ rotateRight s.e 25
  let low := rotateRight s.a 2 ^^^ rotateRight s.a 13 ^^^ rotateRight s.a 22
  let t := s.h + high + choice + constant + word
  ⟨t + low + majority, s.a, s.b, s.c, s.d + t, s.e, s.f, s.g⟩

/-- Mix one block into the state. -/
def compress (s : State) (block : List UInt32) : State :=
  let t := ((schedule block).zip roundConstants).foldl (fun t p => round t p.1 p.2) s
  ⟨s.a + t.a, s.b + t.b, s.c + t.c, s.d + t.d, s.e + t.e, s.f + t.f, s.g + t.g, s.h + t.h⟩

/-- The message, a closing one bit, zeros up to eight bytes before a block's end, and the length of
the message in bits. -/
def pad (message : Bytes) : Bytes :=
  message ++ 0x80 :: List.replicate ((119 - message.length % 64) % 64) 0 ++
    (FixedBytes.ofNat 8 (8 * message.length)).toList

/-- The bytes of a state. -/
def State.toBytes (s : State) : FixedBytes 32 :=
  ⟨bigEndian s.a ++ bigEndian s.b ++ bigEndian s.c ++ bigEndian s.d ++
    bigEndian s.e ++ bigEndian s.f ++ bigEndian s.g ++ bigEndian s.h, rfl⟩

/-- The SHA-256 hash of a message. -/
def digest (message : Bytes) : FixedBytes 32 :=
  ((chunks 16 (listOfBigEndian (pad message))).foldl compress initial).toBytes

/-- SHA-256 applied twice. -/
def double (message : Bytes) : FixedBytes 32 :=
  digest (digest message).toList

end CoinKeys.Sha256
