import CoinKeys.Curve.Field

/-!
# Points of the curve

The curve secp256k1 has the equation `y^2 = x^3 + 7`. Sums are computed in Jacobian coordinates,
which need no division: `(X, Y, Z)` stands for the point `(X / Z^2, Y / Z^3)`, and every triple with
`Z = 0` for the point at infinity.
-/

namespace CoinKeys.Curve

/-- A point in Jacobian coordinates. -/
structure JacobianPoint where
  /-- The first coordinate, times the square of the third. -/
  x : FieldElement
  /-- The second coordinate, times the cube of the third. -/
  y : FieldElement
  /-- The common denominator. -/
  z : FieldElement
  deriving DecidableEq

namespace JacobianPoint

/-- The point at infinity. -/
def infinity : JacobianPoint := ⟨.one, .one, .zero⟩

/-- Whether a point is the point at infinity. -/
def isInfinity (p : JacobianPoint) : Bool := p.z.val == 0

/-- The sum of a point with itself. -/
def double (p : JacobianPoint) : JacobianPoint :=
  let a := p.x * p.x
  let b := p.y * p.y
  let c := b * b
  let s := (p.x + b) * (p.x + b) - a - c
  let d := s + s
  let e := a + a + a
  let x := e * e - d - d
  let c2 := c + c
  let c4 := c2 + c2
  let z := p.y * p.z
  ⟨x, e * (d - x) - (c4 + c4), z + z⟩

/-- The sum of two points. -/
def add (p q : JacobianPoint) : JacobianPoint :=
  if p.isInfinity then q
  else if q.isInfinity then p
  else
    let pz2 := p.z * p.z
    let qz2 := q.z * q.z
    let u := p.x * qz2
    let s := p.y * qz2 * q.z
    let h := q.x * pz2 - u
    let r := q.y * pz2 * p.z - s
    if h.val = 0 then
      if r.val = 0 then p.double else infinity
    else
      let h2 := h * h
      let h3 := h2 * h
      let v := u * h2
      let x := r * r - h3 - v - v
      ⟨x, r * (v - x) - s * h3, h * p.z * q.z⟩

/-- The multiple of a point by the low `bits` bits of a number. -/
def multiply (p : JacobianPoint) : Nat → Nat → JacobianPoint
  | 0, _ => infinity
  | bits + 1, factor =>
    let twice := (multiply p bits (factor / 2)).double
    if factor % 2 = 0 then twice else twice.add p

/-- The generator of the group of points. -/
def generator : JacobianPoint :=
  ⟨.ofNat 0x79be667ef9dcbbac55a06295ce870b07029bfcdb2dce28d959f2815b16f81798,
    .ofNat 0x483ada7726a3c4655da4fbfc0e1108a8fd17b448a68554199c47d08ffb10d4b8, .one⟩

end JacobianPoint

end CoinKeys.Curve
