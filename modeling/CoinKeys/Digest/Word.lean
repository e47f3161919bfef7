import CoinKeys.Bytes

/-!
# Words of 32 bits

Both digest functions and the mixing core of the key derivation work on words of 32 bits with
wrapping addition, rotation and bitwise operations. Byte strings are read as words in either byte
order; a rest of fewer than four bytes is no word.
-/

namespace CoinKeys.Word

/-- Rotate the bits of a word to the left by `count` places, `0 < count < 32`. -/
@[inline] def rotateLeft (word count : UInt32) : UInt32 :=
  (word <<< count) ||| (word >>> (32 - count))

/-- Rotate the bits of a word to the right by `count` places, `0 < count < 32`. -/
@[inline] def rotateRight (word count : UInt32) : UInt32 :=
  (word >>> count) ||| (word <<< (32 - count))

/-- The word of four bytes, most significant first. -/
def ofBytes (b₀ b₁ b₂ b₃ : UInt8) : UInt32 :=
  (b₀.toUInt32 <<< 24) ||| (b₁.toUInt32 <<< 16) ||| (b₂.toUInt32 <<< 8) ||| b₃.toUInt32

/-- The words of a byte string, the most significant byte of each first. -/
def listOfBigEndian : Bytes → List UInt32
  | b₀ :: b₁ :: b₂ :: b₃ :: rest => ofBytes b₀ b₁ b₂ b₃ :: listOfBigEndian rest
  | _ => []

/-- The words of a byte string, the least significant byte of each first. -/
def listOfLittleEndian : Bytes → List UInt32
  | b₀ :: b₁ :: b₂ :: b₃ :: rest => ofBytes b₃ b₂ b₁ b₀ :: listOfLittleEndian rest
  | _ => []

/-- The four bytes of a word, most significant first. -/
def bigEndian (word : UInt32) : Bytes :=
  [(word >>> 24).toUInt8, (word >>> 16).toUInt8, (word >>> 8).toUInt8, word.toUInt8]

/-- The four bytes of a word, least significant first. -/
def littleEndian (word : UInt32) : Bytes :=
  [word.toUInt8, (word >>> 8).toUInt8, (word >>> 16).toUInt8, (word >>> 24).toUInt8]

end CoinKeys.Word
