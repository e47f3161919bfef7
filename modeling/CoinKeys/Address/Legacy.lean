import CoinKeys.Base58
import CoinKeys.Network.Scope

/-!
# Legacy addresses

A legacy address is a version byte and a hash of twenty bytes in checked base 58. The version byte
tells the network and whether the hash is that of a public key or of a script; where a network uses
one byte for both, it is that of a public key.
-/

namespace CoinKeys

/-- A version byte and a hash on a network. -/
structure LegacyAddress where
  /-- The network. -/
  network : NetworkParameters
  /-- The version byte. -/
  version : UInt8
  /-- The hash of a public key or of a script. -/
  hash : FixedBytes 20
  deriving BEq, Hashable, Ord

namespace LegacyAddress

/-- An address with a version byte that is one of the network's. -/
def make (network : NetworkParameters) (version : UInt8) (hash : FixedBytes 20) :
    Except Error LegacyAddress :=
  if network.claimsVersion version then .ok ⟨network, version, hash⟩
  else .error (.wrongNetwork (.notOwnVersion version network.id))

/-- Whether the address pays to a script. -/
def isP2sh (address : LegacyAddress) : Bool :=
  address.version != address.network.p2pkh && address.version == address.network.p2sh

/-- The text of an address. -/
def encode (address : LegacyAddress) : String :=
  Base58.encodeChecked (address.version :: address.hash.toList)

/-- Split a payload into version byte and hash. -/
def split (payload : Bytes) : Except Error (UInt8 × FixedBytes 20) :=
  match payload with
  | [] => .error (.invalidLength (.legacyPayload 0))
  | version :: rest =>
    match FixedBytes.ofList? rest with
    | some hash => .ok (version, hash)
    | none => .error (.invalidLength (.legacyPayload payload.length))

/-- The address that a text spells. -/
def decode (scope : Scope) (text : String) : Except Error LegacyAddress := do
  let payload ← Base58.decodeChecked text
  let (version, hash) ← split payload
  let network ←
    scope.resolve (·.claimsVersion version) (.version version) (.unknownVersion version)
  return ⟨network, version, hash⟩

end LegacyAddress

end CoinKeys
