import CoinKeys.Bytes
import CoinKeys.Error

/-!
# Scalars

The points of the curve form a group of prime order. A secret key is a scalar, a number from one to
one less than the order, stored in thirty-two bytes. `Scalar.multiplyBytes` is multiplication modulo
the order on stored scalars.
-/

namespace CoinKeys

/-- The order of the group of points. -/
def Curve.order : Nat :=
  0xfffffffffffffffffffffffffffffffebaaedce6af48a03bbfd25e8cd0364141

/-- A number from one to one less than the order. -/
structure Scalar where
  /-- The number. -/
  val : Nat
  pos : 0 < val
  lt : val < Curve.order
  deriving DecidableEq

namespace Scalar

/-- The scalar of a number, if it is in range. -/
def ofNat? (n : Nat) : Option Scalar :=
  if h : 0 < n ∧ n < Curve.order then some ⟨n, h.1, h.2⟩ else none

/-- The secret key stored in thirty-two bytes. -/
def ofBytes (bytes : Bytes) : Except Error Scalar :=
  match if bytes.length = 32 then ofNat? bytes.toNat else none with
  | some scalar => .ok scalar
  | none => .error (.curve .secretKey)

/-- The thirty-two bytes of a scalar. -/
def toBytes (k : Scalar) : FixedBytes 32 :=
  .ofNat 32 k.val

/-- The stored product of a stored secret key and a stored factor modulo the order. -/
def multiplyBytes (secret factor : FixedBytes 32) : Except Error (FixedBytes 32) := do
  let k ← ofBytes secret.toList
  match ofNat? factor.toNat with
  | some l => .ok (.ofNat 32 (k.val * l.val % Curve.order))
  | none => .error (.curve .factor)

end Scalar

end CoinKeys
