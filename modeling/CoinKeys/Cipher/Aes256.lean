import CoinKeys.Bytes
import CoinKeys.Cipher.Byte
import CoinKeys.Error

/-!
# AES-256 on one block

A block of sixteen bytes is a square of four columns. A round substitutes each byte, shifts the
rows, mixes each column and adds a round key; the last of the fourteen rounds leaves the mixing
out. Fifteen round keys are expanded from a key of thirty-two bytes. Decryption undoes the steps in
the opposite order.
-/

namespace CoinKeys.Cipher

/-- A column of four bytes. -/
structure Column where
  /-- The byte in row 0. -/
  b0 : UInt8
  /-- The byte in row 1. -/
  b1 : UInt8
  /-- The byte in row 2. -/
  b2 : UInt8
  /-- The byte in row 3. -/
  b3 : UInt8
  deriving DecidableEq

/-- A square of four columns. -/
structure Square where
  /-- Column 0. -/
  c0 : Column
  /-- Column 1. -/
  c1 : Column
  /-- Column 2. -/
  c2 : Column
  /-- Column 3. -/
  c3 : Column
  deriving DecidableEq

namespace Column

/-- Apply a function to each byte. -/
def map (f : UInt8 → UInt8) (c : Column) : Column := ⟨f c.b0, f c.b1, f c.b2, f c.b3⟩

/-- Add two columns. -/
def add (c d : Column) : Column :=
  ⟨c.b0 ^^^ d.b0, c.b1 ^^^ d.b1, c.b2 ^^^ d.b2, c.b3 ^^^ d.b3⟩

/-- Move every byte up by one row, the top one to the bottom. -/
def rotate (c : Column) : Column := ⟨c.b1, c.b2, c.b3, c.b0⟩

/-- The column that the four numbers, as the first row of a circulant matrix, send a column to. -/
def circulant (m0 m1 m2 m3 : UInt8) (c : Column) : Column :=
  let row := fun x0 x1 x2 x3 => mul m0 x0 ^^^ mul m1 x1 ^^^ mul m2 x2 ^^^ mul m3 x3
  ⟨row c.b0 c.b1 c.b2 c.b3, row c.b1 c.b2 c.b3 c.b0, row c.b2 c.b3 c.b0 c.b1,
    row c.b3 c.b0 c.b1 c.b2⟩

/-- Mix the bytes of a column. -/
def mix (c : Column) : Column := c.circulant 2 3 1 1

/-- Undo the mixing of a column. -/
def unmix (c : Column) : Column := c.circulant 14 11 13 9

/-- The bytes of a column. -/
def toList (c : Column) : Bytes := [c.b0, c.b1, c.b2, c.b3]

/-- The columns of a byte string. -/
def listOfBytes : Bytes → List Column
  | b0 :: b1 :: b2 :: b3 :: rest => ⟨b0, b1, b2, b3⟩ :: listOfBytes rest
  | _ => []

/-- A column of zeros. -/
def zero : Column := ⟨0, 0, 0, 0⟩

end Column

namespace Square

/-- Apply a function to each column. -/
def map (f : Column → Column) (s : Square) : Square := ⟨f s.c0, f s.c1, f s.c2, f s.c3⟩

/-- Add two squares. -/
def add (s t : Square) : Square := ⟨s.c0.add t.c0, s.c1.add t.c1, s.c2.add t.c2, s.c3.add t.c3⟩

/-- Shift row `i` to the left by `i` places. -/
def shiftRows (s : Square) : Square :=
  ⟨⟨s.c0.b0, s.c1.b1, s.c2.b2, s.c3.b3⟩, ⟨s.c1.b0, s.c2.b1, s.c3.b2, s.c0.b3⟩,
    ⟨s.c2.b0, s.c3.b1, s.c0.b2, s.c1.b3⟩, ⟨s.c3.b0, s.c0.b1, s.c1.b2, s.c2.b3⟩⟩

/-- Shift row `i` to the right by `i` places. -/
def unshiftRows (s : Square) : Square :=
  ⟨⟨s.c0.b0, s.c3.b1, s.c2.b2, s.c1.b3⟩, ⟨s.c1.b0, s.c0.b1, s.c3.b2, s.c2.b3⟩,
    ⟨s.c2.b0, s.c1.b1, s.c0.b2, s.c3.b3⟩, ⟨s.c3.b0, s.c2.b1, s.c1.b2, s.c0.b3⟩⟩

/-- The squares of a column string. -/
def listOfColumns : List Column → List Square
  | c0 :: c1 :: c2 :: c3 :: rest => ⟨c0, c1, c2, c3⟩ :: listOfColumns rest
  | _ => []

/-- A square of zeros. -/
def zero : Square := ⟨.zero, .zero, .zero, .zero⟩

/-- The squares of a byte string. -/
def listOfBytes (bytes : Bytes) : List Square := listOfColumns (Column.listOfBytes bytes)

/-- The square of a block. -/
def ofBlock (block : FixedBytes 16) : Square := (listOfBytes block.toList).headD .zero

/-- The block of a square. -/
def toBlock (s : Square) : FixedBytes 16 :=
  ⟨s.c0.toList ++ s.c1.toList ++ s.c2.toList ++ s.c3.toList, rfl⟩

end Square

/-! ## Round keys -/

/-- The next eight columns of the key schedule after two squares, and `constant` for this step. -/
def nextKeys (constant : UInt8) (k l : Square) : Square × Square :=
  let k0 := (k.c0.add (l.c3.rotate.map substitute)).add ⟨constant, 0, 0, 0⟩
  let k1 := k.c1.add k0
  let k2 := k.c2.add k1
  let k3 := k.c3.add k2
  let l0 := l.c0.add (k3.map substitute)
  let l1 := l.c1.add l0
  let l2 := l.c2.add l1
  let l3 := l.c3.add l2
  (⟨k0, k1, k2, k3⟩, ⟨l0, l1, l2, l3⟩)

/-- The key schedule from two squares on, `count` pairs of squares. -/
def keysFrom : Nat → UInt8 → Square → Square → List Square
  | 0, _, _, _ => []
  | count + 1, constant, k, l =>
    let next := nextKeys constant k l
    k :: l :: keysFrom count (double constant) next.1 next.2

/-- The fifteen round keys of a key of thirty-two bytes. -/
def roundKeys (key : Bytes) : List Square :=
  match Square.listOfBytes key with
  | k :: l :: _ => (keysFrom 8 1 k l).take 15
  | _ => []

/-! ## Rounds -/

/-- Substitute each byte and shift the rows. -/
def scatter (s : Square) : Square := (s.map (Column.map substitute)).shiftRows

/-- Undo `scatter`. -/
def unscatter (s : Square) : Square := s.unshiftRows.map (Column.map unsubstitute)

/-- One round for each key; the last leaves the mixing out. -/
def rounds : List Square → Square → Square
  | [], s => s
  | [key], s => (scatter s).add key
  | key :: keys, s => rounds keys (((scatter s).map Column.mix).add key)

/-- Undo the rounds for the keys. -/
def unrounds : List Square → Square → Square
  | [], s => s
  | [key], s => unscatter (s.add key)
  | key :: keys, s => unscatter (((unrounds keys s).add key).map Column.unmix)

/-- Add the first round key, then run a round for each of the others. -/
def encryptSquare : List Square → Square → Square
  | [], s => s
  | key :: keys, s => rounds keys (s.add key)

/-- Undo `encryptSquare`. -/
def decryptSquare : List Square → Square → Square
  | [], s => s
  | key :: keys, s => (unrounds keys s).add key

/-! ## Blocks -/

/-- Encrypt one block with AES-256. -/
def encryptBlock (key : Bytes) (block : FixedBytes 16) : Except Error (FixedBytes 16) :=
  if key.length = 32 then .ok (encryptSquare (roundKeys key) (.ofBlock block)).toBlock
  else .error (.derivation (.cipherKey key.length))

/-- Decrypt one block with AES-256. -/
def decryptBlock (key : Bytes) (block : FixedBytes 16) : Except Error (FixedBytes 16) :=
  if key.length = 32 then .ok (decryptSquare (roundKeys key) (.ofBlock block)).toBlock
  else .error (.derivation (.cipherKey key.length))

end CoinKeys.Cipher
