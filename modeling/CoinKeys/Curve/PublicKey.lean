import CoinKeys.Curve.Point
import CoinKeys.Curve.Scalar

/-!
# Public keys

A public key is a point of the curve other than infinity, the multiple of the generator by a secret
key. It is written in thirty-three bytes, a tag that tells the parity of `y` and `x`, or in
sixty-five bytes, a tag and both coordinates. Two tags of the long form also tell the parity; they
are read but never written.
-/

namespace CoinKeys

open Curve

/-- A point of the curve. -/
structure PublicKey where
  /-- The first coordinate. -/
  x : FieldElement
  /-- The second coordinate. -/
  y : FieldElement
  deriving DecidableEq

namespace PublicKey

/-- The point of a triple of Jacobian coordinates. Infinity has no coordinates and becomes the pair
of zeros. -/
def ofJacobian (p : JacobianPoint) : PublicKey :=
  let i := FieldElement.inverse p.z
  let i2 := i * i
  ⟨p.x * i2, p.y * i2 * i⟩

/-- The public key of a secret key. -/
def ofScalar (k : Scalar) : PublicKey :=
  ofJacobian (JacobianPoint.generator.multiply 256 k.val)

/-- What the square of `y` is on the curve. -/
def squareAt (x : FieldElement) : FieldElement :=
  x * x * x + .ofNat 7

/-! ## Writing -/

/-- The bytes of a coordinate. -/
def coordinateBytes (a : FieldElement) : FixedBytes 32 :=
  .ofNat 32 a.val

/-- The short form. -/
def compressed (key : PublicKey) : FixedBytes 33 :=
  FixedBytes.append ⟨[if key.y.isOdd then 3 else 2], rfl⟩ (coordinateBytes key.x)

/-- The long form. -/
def uncompressed (key : PublicKey) : FixedBytes 65 :=
  FixedBytes.append ⟨[4], rfl⟩ ((coordinateBytes key.x).append (coordinateBytes key.y))

/-- The short or the long form. -/
def toBytes (key : PublicKey) (short : Bool) : Bytes :=
  if short then key.compressed.toList else key.uncompressed.toList

/-! ## Reading -/

/-- The point with the given first coordinate and parity of the second. -/
def ofParity? (x : FieldElement) (odd : Bool) : Option PublicKey :=
  (FieldElement.sqrt? (squareAt x)).map fun root =>
    ⟨x, if root.isOdd == odd then root else -root⟩

/-- The point with the given coordinates, if it is on the curve. -/
def ofCoordinates? (x y : FieldElement) : Option PublicKey :=
  if y * y = squareAt x then some ⟨x, y⟩ else none

/-- Read a tag and the coordinates behind it. -/
def ofTagged? (tag : UInt8) (coordinates : Bytes) : Option PublicKey := do
  let x ← FieldElement.ofNat? (Bytes.toNat (coordinates.take 32))
  if coordinates.length = 32 then
    if tag = 2 || tag = 3 then ofParity? x (tag == 3) else none
  else if coordinates.length = 64 then
    let y ← FieldElement.ofNat? (Bytes.toNat (coordinates.drop 32))
    if tag = 4 || (tag = 6 && !y.isOdd) || (tag = 7 && y.isOdd) then ofCoordinates? x y else none
  else none

/-- The public key that the bytes of either form stand for. -/
def ofBytes (bytes : Bytes) : Except Error PublicKey :=
  match bytes with
  | [] => .error (.curve .publicKey)
  | tag :: coordinates =>
    match ofTagged? tag coordinates with
    | some key => .ok key
    | none => .error (.curve .publicKey)

end PublicKey

end CoinKeys
