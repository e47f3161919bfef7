import CoinKeys.Address.Basic

/-!
# Private keys

A private key is a secret scalar together with the form in which its public key is written; that
form decides about the address. A private key is stored as a version byte, the secret and, for the
short form, a marker byte, in checked base 58 (WIF). Reading checks the length and the marker, then
the version byte, then the secret.
-/

namespace CoinKeys

/-- A secret key and whether its public key is written in the short form. -/
structure PrivateKey where
  /-- The secret key. -/
  secret : Scalar
  /-- Whether the public key is written in the short form. -/
  compressed : Bool
  deriving DecidableEq

namespace PrivateKey

/-- The private key with the secret stored in thirty-two bytes. -/
def ofBytes (secret : Bytes) (compressed : Bool) : Except Error PrivateKey :=
  (Scalar.ofBytes secret).map (⟨·, compressed⟩)

/-- The public key. -/
def publicKey (key : PrivateKey) : PublicKey :=
  .ofScalar key.secret

/-- The bytes of the public key. -/
def publicKeyBytes (key : PrivateKey) : Bytes :=
  key.publicKey.toBytes key.compressed

/-- The address that pays to the key on a network. -/
def address (key : PrivateKey) (network : NetworkParameters) : LegacyAddress :=
  ⟨network, network.p2pkh, hash160 key.publicKeyBytes⟩

/-! ## Stored form -/

/-- The byte behind the secret of a key whose public key is written in the short form. -/
def compressedMarker : UInt8 := 1

/-- What is stored of a private key. -/
structure Stored where
  /-- The version byte of the network. -/
  version : UInt8
  /-- The bytes of the secret. -/
  secret : Bytes
  /-- Whether the marker follows. -/
  compressed : Bool

/-- Split a payload into its parts. -/
def Stored.ofPayload (payload : Bytes) : Except Error Stored :=
  let misfit := Error.invalidLength (.privateKeyPayload payload.length)
  match payload with
  | [] => .error misfit
  | version :: rest =>
    match rest.take 32, rest.drop 32 with
    | secret, [] => if secret.length = 32 then .ok ⟨version, secret, false⟩ else .error misfit
    | secret, [marker] =>
      if marker = compressedMarker then .ok ⟨version, secret, true⟩
      else .error (.invalidData marker)
    | _, _ => .error misfit

/-- The text of a key on a network. -/
def encode (key : PrivateKey) (network : NetworkParameters) : String :=
  Base58.encodeChecked (network.wif :: key.secret.toBytes.toList ++
    if key.compressed then [compressedMarker] else [])

/-- The key that a text spells, and its network. -/
def decode (scope : Scope) (text : String) : Except Error (PrivateKey × NetworkParameters) := do
  let payload ← Base58.decodeChecked text
  let stored ← Stored.ofPayload payload
  let network ← scope.resolve (·.wif == stored.version) (.keyVersion stored.version)
    (.unknownKeyVersion stored.version)
  let key ← ofBytes stored.secret stored.compressed
  return (key, network)

/-! ## Description -/

/-- What is hashed, twice, in front of a secret to make its fingerprint. -/
def fingerprintTag : FixedBytes 32 :=
  .ofNat 32 0x66a6771b9b6daea1b2ee4e07494aac87a9b85b4b3502aa6d0f79cb63e6f86622

/-- Eight bytes that tell secrets apart without showing them. -/
def fingerprint (key : PrivateKey) : Bytes :=
  (Sha256.digest (fingerprintTag.toList ++ fingerprintTag.toList ++
    key.secret.toBytes.toList)).toList.take 8

/-- A description of the key that does not show the secret. -/
def describe (key : PrivateKey) : String :=
  "PrivateKey \x7b secret: SecretKey(#" ++ Text.hexBytes key.fingerprint ++
    "), compressed: " ++ (if key.compressed then "true" else "false") ++ " \x7d"

end PrivateKey

end CoinKeys
