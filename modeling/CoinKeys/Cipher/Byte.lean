/-!
# Bytes as a field

The block cipher reads a byte as a polynomial over the field of two elements, reduced by
`x^8 + x^4 + x^3 + x + 1`: addition is exclusive or, doubling is a shift with reduction, and every
byte but zero has an inverse. The substitution of the cipher is the inverse followed by an affine
map on the bits.
-/

namespace CoinKeys.Cipher

/-- Twice a byte. -/
def double (b : UInt8) : UInt8 :=
  (b <<< 1) ^^^ (if b &&& 0x80 = 0 then 0 else 0x1b)

/-- Add the product of `a` and the low `bits` bits of `b` to `sum`. -/
def mulOnto : Nat → UInt8 → UInt8 → UInt8 → UInt8
  | 0, _, _, sum => sum
  | bits + 1, a, b, sum =>
    mulOnto bits (double a) (b >>> 1) (if b &&& 1 = 0 then sum else sum ^^^ a)

/-- The product of two bytes. -/
def mul (a b : UInt8) : UInt8 := mulOnto 8 a b 0

/-- Multiply `product` by the next `count` squarings of `b`. -/
def squaresOnto : Nat → UInt8 → UInt8 → UInt8
  | 0, _, product => product
  | count + 1, b, product =>
    let square := mul b b
    squaresOnto count square (mul product square)

/-- The inverse of a byte, its power with exponent 254 = 2 + 4 + ... + 128; zero for zero. -/
def inverse (b : UInt8) : UInt8 := squaresOnto 7 b 1

/-- Rotate the bits of a byte to the left by `count` places, `0 < count < 8`. -/
def rotate (b count : UInt8) : UInt8 :=
  (b <<< count) ||| (b >>> (8 - count))

/-- The substitution. -/
def substitute (b : UInt8) : UInt8 :=
  let i := inverse b
  i ^^^ rotate i 1 ^^^ rotate i 2 ^^^ rotate i 3 ^^^ rotate i 4 ^^^ 0x63

/-- The substitution undone. -/
def unsubstitute (b : UInt8) : UInt8 :=
  inverse (rotate b 1 ^^^ rotate b 3 ^^^ rotate b 6 ^^^ 0x05)

end CoinKeys.Cipher
