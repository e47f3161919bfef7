/-!
# The field of coordinates

Points of the curve have coordinates in the field of a prime number of elements, which are the
numbers below the prime. Powers are taken by squaring, inverses and square roots as powers.
-/

namespace CoinKeys.Curve

/-- The prime number of elements of the field, `2 ^ 256 - 2 ^ 32 - 977`. -/
def fieldSize : Nat :=
  0xfffffffffffffffffffffffffffffffffffffffffffffffffffffffefffffc2f

/-- An element of the field. -/
abbrev FieldElement := Fin fieldSize

namespace FieldElement

/-- The element of a number below the prime. -/
def ofNat (n : Nat) (within : n < fieldSize := by decide) : FieldElement :=
  ⟨n, within⟩

/-- The neutral element of addition. -/
def zero : FieldElement := ofNat 0

/-- The neutral element of multiplication. -/
def one : FieldElement := ofNat 1

/-- The element of a number, if it is below the prime. -/
def ofNat? (n : Nat) : Option FieldElement :=
  if h : n < fieldSize then some ⟨n, h⟩ else none

/-- The power of `a` whose exponent is the low `bits` bits of a number. -/
def power (a : FieldElement) : Nat → Nat → FieldElement
  | 0, _ => one
  | bits + 1, exponent =>
    let root := power a bits (exponent / 2)
    if exponent % 2 = 0 then root * root else root * root * a

/-- The inverse of an element; zero for zero. -/
def inverse (a : FieldElement) : FieldElement :=
  power a 256 (fieldSize - 2)

/-- A square root, if there is one. As the prime is one less than a multiple of four, a square
raised to a quarter of its successor is a root. -/
def sqrt? (a : FieldElement) : Option FieldElement :=
  let root := power a 256 ((fieldSize + 1) / 4)
  if root * root = a then some root else none

/-- Whether the number of an element is odd. -/
def isOdd (a : FieldElement) : Bool :=
  a.val % 2 == 1

end FieldElement

end CoinKeys.Curve
