import CoinKeys.Bytes

/-!
# The residue of a symbol string

Bech32 reads its symbols as the coefficients of a polynomial over the field of 32 elements and
takes the remainder by a fixed generator of degree six, thirty bits. A step multiplies the residue
by the unknown and adds the next symbol; the bits that overflow are replaced by the multiples of
the generator that they stand for. A text is valid when its residue is one.
-/

namespace CoinKeys.Bech32

/-- Six coefficients of five bits. -/
abbrev Residue := BitVec 30

/-- What each of the five overflowing bits stands for, lowest bit first. -/
def generator : List Residue :=
  [0x3b6a57b2, 0x26508e6d, 0x1ea119fa, 0x3d4233dd, 0x2a1462b3]

/-- The multiple of the generator for the top five bits of a residue. -/
def overflow (r : Residue) : Residue :=
  (generator.zipIdx.map fun g => if r.getLsbD (25 + g.2) then g.1 else 0).foldl (· ^^^ ·) 0

/-- Multiply by the unknown and add a symbol. -/
def Residue.push (r : Residue) (symbol : UInt8) : Residue :=
  (r <<< 5) ^^^ overflow r ^^^ BitVec.ofNat 30 symbol.toNat

/-- The residue of a symbol string behind an initial one. -/
def residue (symbols : List UInt8) : Residue :=
  symbols.foldl Residue.push 1

/-- The symbols that stand for a human-readable part: the high bits of its characters, a zero, and
their low bits. -/
def hrpSymbols (hrp : List Char) : List UInt8 :=
  hrp.map (fun c => UInt8.ofNat (c.toNat / 32)) ++ 0 :: hrp.map fun c => UInt8.ofNat (c.toNat % 32)

/-- How many symbols a checksum takes. -/
def checksumSize : Nat := 6

/-- Whether the symbols after a human-readable part, checksum included, are valid. -/
def isValid (hrp : List Char) (symbols : List UInt8) : Bool :=
  residue (hrpSymbols hrp ++ symbols) == 1

/-- The six symbols that make the residue one. -/
def checksum (hrp : List Char) (values : List UInt8) : List UInt8 :=
  let r := residue (hrpSymbols hrp ++ values ++ List.replicate checksumSize 0) ^^^ 1
  [25, 20, 15, 10, 5, 0].map fun shift => UInt8.ofNat ((r >>> shift).toNat % 32)

end CoinKeys.Bech32
